import WafControl.Redirect.Programmer

/-!
# What programming does to a ruleset

A packet filter is faithful to a view of its state as a ruleset if a listing that succeeds shows the
relay's chain as it is, and a transaction is carried out whole or, when it fails, not at all.
Listing and running may fail at any time. Programming then performs exactly the transaction that its
operation calls for (`program_ok`), or leaves the ruleset alone (`program_error`); in particular no
rule of a relay is left after a deletion that succeeds, and nothing but the relay's table is gone.
-/

namespace WafControl

/-- A packet filter that does what it says to the ruleset in its state. -/
structure NftOps.Faithful {σ : Type} (ops : NftOps σ) (view : σ → Ruleset) : Prop where
  list_view : ∀ s, view (ops.list s).2 = view s
  list_ok : ∀ s comments, (ops.list s).1 = .ok comments → comments = (view s).relayComments
  run_ok : ∀ tx s, (ops.run tx s).1 = .ok () → (view s).run? tx = some (view (ops.run tx s).2)
  run_error : ∀ tx s e, (ops.run tx s).1 = .error e → view (ops.run tx s).2 = view s

/-- A scripted packet filter fails on demand, and otherwise does what it says. -/
theorem ScriptedNft.faithful_ops : ScriptedNft.ops.Faithful ScriptedNft.ruleset where
  list_view := fun _ => rfl
  list_ok := by
    intro n comments h
    simp only [ops, list] at h
    split at h
    · cases h
    · exact (Except.ok.inj h).symm
  run_ok := by
    intro tx n h
    simp only [ops, run] at h ⊢
    split at h
    · cases h
    · split at h
      · rename_i rs hrun
        simp only [hrun]
      · cases h
  run_error := by
    intro tx n e h
    simp only [ops, run] at h ⊢
    split at h
    · rfl
    · split at h
      · cases h
      · rfl

namespace Ruleset

theorem run?_nil (rs : Ruleset) : rs.run? [] = some rs := rfl

/-- The listing of the relay's chain tells whether a relay made a rule of it. -/
theorem carriesOwned_relayComments (rs : Ruleset) :
    Programmer.carriesOwned rs.relayComments = true ↔ rs.ownedRules ≠ [] := by
  rw [relayComments, ownedRules]
  cases rs.relayChain? with
  | none => simp [Programmer.carriesOwned]
  | some c =>
      rw [Option.map_some, Programmer.carriesOwned, List.any_map, ne_eq, List.filter_eq_nil_iff]
      simp [NftRule.owned]

theorem carriesOwned_relayComments_eq_false (rs : Ruleset) :
    Programmer.carriesOwned rs.relayComments = false ↔ rs.ownedRules = [] := by
  rw [← Bool.not_eq_true, carriesOwned_relayComments, ne_eq, Decidable.not_not]

/-- All of a ruleset but the relay's table. -/
def elsewhere (rs : Ruleset) : Ruleset := ⟨rs.tables.erase relayKey⟩

theorem relayTable?_elsewhere (rs : Ruleset) : rs.elsewhere.relayTable? = none :=
  Table.find?_erase_self _ _

/-- The removal of the relay's table removes nothing else. -/
theorem eq_elsewhere_of_removal {rs rs' : Ruleset} (h : rs.run? Redirect.removal = some rs') :
    rs' = rs.elsewhere := by
  have hrun : NftCommand.runOn? rs .deleteTable = some rs' := by
    simpa [run?, Redirect.removal] using h
  rw [NftCommand.runOn?] at hrun
  split at hrun
  · exact (Option.some.inj hrun).symm
  · cases hrun

theorem relayTable?_of_removal {rs rs' : Ruleset} (h : rs.run? Redirect.removal = some rs') :
    rs'.relayTable? = none := by
  rw [eq_elsewhere_of_removal h, relayTable?_elsewhere]

theorem relayChain?_of_removal {rs rs' : Ruleset} (h : rs.run? Redirect.removal = some rs') :
    rs'.relayChain? = none := by
  rw [relayChain?, relayTable?_of_removal h]
  rfl

theorem ownedRules_of_removal {rs rs' : Ruleset} (h : rs.run? Redirect.removal = some rs') :
    rs'.ownedRules = [] := by
  rw [ownedRules, relayChain?_of_removal h]

end Ruleset

namespace Programmer

variable {σ : Type} {ops : NftOps σ} {view : σ → Ruleset}

/-- A listing that succeeds tells whether a relay made a rule of the chain. -/
theorem applied_eq (hf : ops.Faithful view) (s : σ) :
    (applied ops s).1 = (ops.list s).1.map fun _ => carriesOwned (view s).relayComments := by
  have hlist : (applied ops s).1 = (ops.list s).1.map carriesOwned := rfl
  rw [hlist]
  cases hl : (ops.list s).1 with
  | error e => rfl
  | ok comments =>
      rw [hf.list_ok s comments hl]
      rfl

theorem applied_ok (hf : ops.Faithful view) {s : σ} {b : Bool} (h : (applied ops s).1 = .ok b) :
    b = carriesOwned (view s).relayComments := by
  rw [applied_eq hf] at h
  cases hl : (ops.list s).1 with
  | error e =>
      rw [hl] at h
      cases h
  | ok comments =>
      rw [hl] at h
      exact (Except.ok.inj h).symm

theorem view_applied (hf : ops.Faithful view) (s : σ) : view (applied ops s).2 = view s :=
  hf.list_view s

theorem program_of_error {s : σ} {e : NftError} (h : (applied ops s).1 = .error e)
    (op : RedirectOp) : program ops op s = (.error e, (applied ops s).2) := by
  rw [program]
  cases ha : applied ops s with
  | mk answer s₁ =>
      rw [ha] at h
      cases h
      rfl

theorem program_of_ok {s : σ} {b : Bool} (h : (applied ops s).1 = .ok b) (op : RedirectOp) :
    program ops op s =
      if transaction b op = [] then (.ok (), (applied ops s).2)
      else ops.run (transaction b op) (applied ops s).2 := by
  rw [program]
  cases ha : applied ops s with
  | mk answer s₁ =>
      rw [ha] at h
      cases h
      cases ht : transaction b op with
      | nil => simp [ht]
      | cons c cs => simp [ht]

/-- A failure leaves the ruleset alone. -/
theorem program_error (hf : ops.Faithful view) {op : RedirectOp} {s : σ} {e : NftError}
    (h : (program ops op s).1 = .error e) : view (program ops op s).2 = view s := by
  have hv := view_applied hf s
  cases ha : (applied ops s).1 with
  | error e₁ => rwa [program_of_error ha]
  | ok b =>
      rw [program_of_ok ha] at h ⊢
      split at h
      · cases h
      · rw [if_neg ‹_›]
        exact (hf.run_error _ _ _ h).trans hv

/-- A success carries out the transaction that the operation calls for. -/
theorem program_ok (hf : ops.Faithful view) {op : RedirectOp} {s : σ}
    (h : (program ops op s).1 = .ok ()) :
    (view s).run? (transaction (carriesOwned (view s).relayComments) op) =
      some (view (program ops op s).2) := by
  have hv := view_applied hf s
  cases ha : (applied ops s).1 with
  | error e₁ =>
      rw [program_of_error ha] at h
      cases h
  | ok b =>
      rw [← applied_ok hf ha, ← hv]
      rw [program_of_ok ha] at h ⊢
      split at h
      · rw [if_pos ‹_›, ‹transaction b op = []›, Ruleset.run?_nil]
      · rw [if_neg ‹_›]
        exact hf.run_ok _ _ h

/-- After a deletion that succeeds, the relay's chain holds no rule that a relay made. -/
theorem ownedRules_of_delete (hf : ops.Faithful view) {s : σ}
    (h : (program ops .delete s).1 = .ok ()) :
    (view (program ops .delete s).2).ownedRules = [] := by
  have hrun := program_ok hf h
  cases hc : carriesOwned (view s).relayComments with
  | true =>
      rw [hc] at hrun
      exact Ruleset.ownedRules_of_removal hrun
  | false =>
      rw [hc, transaction, if_neg Bool.false_ne_true, Ruleset.run?_nil] at hrun
      rw [← Option.some.inj hrun]
      exact (Ruleset.carriesOwned_relayComments_eq_false _).1 hc

end Programmer

end WafControl
