import WafControl.Proofs.Programming

/-!
# The table of a relay

An addition changes the relay's table and nothing else (`run?_addition`): the redirecting rule comes
last in its chain, and the addresses of the gateway join its set. Where the table is missing, it
makes one that depends on nothing else (`Redirect.table`): its chain holds the redirecting rule
alone, and its set holds the addresses of the gateway. A deletion removes the table again, since the
rule in it is marked as a relay's. A ruleset in which only relays change that table is therefore
always as a relay leaves it (`AsLeft`): without the table, or with one that an addition made.
-/

namespace WafControl

namespace AddressSet

theorem mem_add (s : AddressSet) (ip other : Ipv4) :
    other ∈ (s.add ip).addresses ↔ other ∈ s.addresses ∨ other = ip := by
  rw [add]
  split
  · rename_i h
    refine ⟨Or.inl, ?_⟩
    rintro (h' | rfl)
    · exact h'
    · exact h
  · simp

theorem mem_foldl_add (ips : List Ipv4) (s : AddressSet) (ip : Ipv4) :
    ip ∈ (ips.foldl add s).addresses ↔ ip ∈ s.addresses ∨ ip ∈ ips := by
  induction ips generalizing s with
  | nil => simp
  | cons first rest ih =>
      rw [List.foldl_cons, ih, mem_add, List.mem_cons, or_assoc]

end AddressSet

namespace Redirect

def rule (r : Redirect) : NftRule := ⟨.redirect r.appPort r.relayPort, some ownedComment⟩

def gatewaySet (r : Redirect) : AddressSet :=
  r.gatewayIps.foldl AddressSet.add { comment := some ownedComment }

/-- The table that an addition makes where there is none. -/
def table (r : Redirect) : NftTable where
  chains := ⟨[(chainName, { rules := [r.rule], comment := some ownedComment })]⟩
  sets := ⟨[(setName, r.gatewaySet)]⟩

/-- The chain of a table with the redirecting rule after its rules. -/
def chainIn (r : Redirect) (t : NftTable) : NftChain :=
  let c := (t.chains.find? chainName).getD { comment := some ownedComment }
  { c with rules := c.rules ++ [r.rule] }

/-- The set of a table with the addresses of the gateway. -/
def gatewaySetIn (r : Redirect) (t : NftTable) : AddressSet :=
  r.gatewayIps.foldl AddressSet.add ((t.sets.find? setName).getD { comment := some ownedComment })

/-- A table after an addition to it. -/
def extend (r : Redirect) (t : NftTable) : NftTable where
  chains := t.chains.insert chainName (r.chainIn t)
  sets := t.sets.insert setName (r.gatewaySetIn t)

theorem extend_empty (r : Redirect) : r.extend {} = r.table := rfl

theorem owned_rule (r : Redirect) : r.rule.owned = true := beq_self_eq_true _

theorem mem_gatewaySet (r : Redirect) (ip : Ipv4) :
    ip ∈ r.gatewaySet.addresses ↔ ip ∈ r.gatewayIps := by
  rw [gatewaySet, AddressSet.mem_foldl_add]
  simp

end Redirect

namespace Ruleset

@[simp] theorem relayTable?_setRelayTable (rs : Ruleset) (t : NftTable) :
    (rs.setRelayTable t).relayTable? = some t :=
  Table.find?_insert_self _ _ _

theorem setRelayTable_setRelayTable (rs : Ruleset) (t t' : NftTable) :
    (rs.setRelayTable t).setRelayTable t' = rs.setRelayTable t' :=
  congrArg mk (Table.insert_insert _ _ _ _)

theorem setRelayTable_of_relayTable? {rs : Ruleset} {t : NftTable} (h : rs.relayTable? = some t) :
    rs.setRelayTable t = rs :=
  congrArg mk (Table.insert_of_find? h)

theorem run?_cons (rs : Ruleset) (c : NftCommand) (tx : Transaction) :
    rs.run? (c :: tx) = (c.runOn? rs).bind fun rs' => rs'.run? tx := rfl

/-- A command that changes the relay's table is followed by the rest of the transaction. -/
theorem run?_setRelayTable_cons (rs : Ruleset) {t t' : NftTable} {c : NftCommand}
    {f : NftTable → Option NftTable} (hc : ∀ rs, c.runOn? rs = rs.updateRelayTable? f)
    (hf : f t = some t') (tx : Transaction) :
    (rs.setRelayTable t).run? (c :: tx) = (rs.setRelayTable t').run? tx := by
  rw [run?_cons, hc, updateRelayTable?, relayTable?_setRelayTable, Option.bind_some, hf,
    Option.map_some, Option.bind_some, setRelayTable_setRelayTable]

theorem run?_addTable_cons (rs : Ruleset) (tx : Transaction) :
    rs.run? (.addTable :: tx) = (rs.setRelayTable (rs.relayTable?.getD {})).run? tx := by
  rw [run?_cons, NftCommand.runOn?, Option.bind_some]
  cases h : rs.relayTable? with
  | none => rfl
  | some t =>
      rw [Option.isSome_some, if_pos rfl, Option.getD_some, setRelayTable_of_relayTable? h]

end Ruleset

namespace NftTable

open Redirect

theorem addChain_eq (t : NftTable) :
    t.addChain =
      { t with
        chains := t.chains.insert chainName
          ((t.chains.find? chainName).getD { comment := some ownedComment }) } := by
  rw [addChain, Table.contains]
  cases h : t.chains.find? chainName with
  | none => rfl
  | some c => simp [Table.insert_of_find? h]

theorem addSet_eq (t : NftTable) :
    t.addSet =
      { t with
        sets := t.sets.insert setName
          ((t.sets.find? setName).getD { comment := some ownedComment }) } := by
  rw [addSet, Table.contains]
  cases h : t.sets.find? setName with
  | none => rfl
  | some s => simp [Table.insert_of_find? h]

end NftTable

namespace Ruleset

/-- An addition is never refused, and changes the relay's table only. -/
theorem run?_addition (rs : Ruleset) (r : Redirect) :
    rs.run? r.addition = some (rs.setRelayTable (r.extend (rs.relayTable?.getD {}))) := by
  generalize ht : rs.relayTable?.getD {} = t
  have hmade (tx : Transaction) : rs.run? (.addTable :: .addChain :: .addSet :: tx) =
      (rs.setRelayTable t.addChain.addSet).run? tx := by
    rw [run?_addTable_cons, ht, run?_setRelayTable_cons rs (c := .addChain) (fun _ => rfl) rfl,
      run?_setRelayTable_cons rs (c := .addSet) (fun _ => rfl) rfl]
  -- without addresses there is no command for the set
  by_cases hips : r.gatewayIps = []
  · have haddition : r.addition =
        [.addTable, .addChain, .addSet, .addRule r.appPort r.relayPort] := by
      simp [Redirect.addition, hips]
    have hrule : t.addChain.addSet.addRule? r.rule = some (r.extend t) := by
      simp [NftTable.addRule?, NftTable.addChain_eq, NftTable.addSet_eq, Redirect.extend,
        Redirect.chainIn, Redirect.gatewaySetIn, hips]
    rw [haddition, hmade,
      run?_setRelayTable_cons rs (c := .addRule r.appPort r.relayPort) (fun _ => rfl) hrule,
      run?_nil]
  · have haddition : r.addition = [.addTable, .addChain, .addSet, .addElements r.gatewayIps,
        .addRule r.appPort r.relayPort] := by
      simp [Redirect.addition, hips]
    obtain ⟨t', helements, hrule⟩ : ∃ t', t.addChain.addSet.addElements? r.gatewayIps = some t' ∧
        t'.addRule? r.rule = some (r.extend t) := by
      simp [NftTable.addElements?, NftTable.addRule?, NftTable.addChain_eq, NftTable.addSet_eq,
        Redirect.extend, Redirect.chainIn, Redirect.gatewaySetIn]
    rw [haddition, hmade,
      run?_setRelayTable_cons rs (c := .addElements r.gatewayIps) (fun _ => rfl) helements,
      run?_setRelayTable_cons rs (c := .addRule r.appPort r.relayPort) (fun _ => rfl) hrule,
      run?_nil]

/-- An addition where there is no table makes the table. -/
theorem relayTable?_of_addition {rs rs' : Ruleset} (h : rs.relayTable? = none) {r : Redirect}
    (hrun : rs.run? r.addition = some rs') : rs'.relayTable? = some r.table := by
  rw [run?_addition, h] at hrun
  rw [← Option.some.inj hrun, relayTable?_setRelayTable, Option.getD_none, r.extend_empty]

theorem relayChain?_of_table {rs : Ruleset} {r : Redirect} (h : rs.relayTable? = some r.table) :
    rs.relayChain? = some { rules := [r.rule], comment := some Redirect.ownedComment } := by
  rw [relayChain?, h]
  rfl

theorem gatewaySet?_of_table {rs : Ruleset} {r : Redirect} (h : rs.relayTable? = some r.table) :
    rs.gatewaySet? = some r.gatewaySet := by
  rw [gatewaySet?, h]
  rfl

theorem ownedRules_of_table {rs : Ruleset} {r : Redirect} (h : rs.relayTable? = some r.table) :
    rs.ownedRules = [r.rule] := by
  rw [ownedRules, relayChain?_of_table h]
  simp [r.owned_rule]

theorem ownedRules_of_none {rs : Ruleset} (h : rs.relayTable? = none) : rs.ownedRules = [] := by
  rw [ownedRules, relayChain?, h]
  rfl

/-- Only relays changed the relay's table: it is missing, or as an addition made it. -/
def AsLeft (rs : Ruleset) : Prop :=
  rs.relayTable? = none ∨ ∃ r : Redirect, rs.relayTable? = some r.table

end Ruleset

namespace Programmer

variable {σ : Type} {ops : NftOps σ} {view : σ → Ruleset}

/-- A deletion that succeeds leaves no table. -/
theorem relayTable?_of_delete (hf : ops.Faithful view) {s : σ} (hl : (view s).AsLeft)
    (h : (program ops .delete s).1 = .ok ()) :
    (view (program ops .delete s).2).relayTable? = none := by
  have hrun := program_ok hf h
  rcases hl with hnone | ⟨r, hr⟩
  · have howned := Ruleset.ownedRules_of_none hnone
    rw [(Ruleset.carriesOwned_relayComments_eq_false _).2 howned] at hrun
    rw [← Option.some.inj hrun]
    exact hnone
  · have howned : (view s).ownedRules ≠ [] := by
      rw [Ruleset.ownedRules_of_table hr]
      exact List.cons_ne_nil _ _
    rw [(Ruleset.carriesOwned_relayComments _).2 howned] at hrun
    exact Ruleset.relayTable?_of_removal hrun

/-- An addition that succeeds where there is no table makes the table. -/
theorem relayTable?_of_add (hf : ops.Faithful view) {s : σ} (hnone : (view s).relayTable? = none)
    {r : Redirect} (h : (program ops (.add r) s).1 = .ok ()) :
    (view (program ops (.add r) s).2).relayTable? = some r.table := by
  have hrun := program_ok hf h
  rw [(Ruleset.carriesOwned_relayComments_eq_false _).2 (Ruleset.ownedRules_of_none hnone)] at hrun
  exact Ruleset.relayTable?_of_addition hnone hrun

end Programmer

end WafControl
