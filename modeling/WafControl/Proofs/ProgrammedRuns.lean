import Mathlib.Data.List.Chain
import WafControl.Proofs.RelayTable

/-!
# Runs of the programmer

The programmer is called again and again, on any ruleset, and listing and running may fail each
time. A call comes to one of four things (`Programmed`), and what holds along every run of calls is
read off them (`programming_disciplined`).

An addition leaves what is in the relay's table, but a deletion takes the table with all it holds.
So the two together restore a ruleset exactly if there was no such table (`withdrawn_redirect`).
-/

namespace WafControl

namespace Ruleset

theorem elsewhere_eq_self_iff (rs : Ruleset) : rs.elsewhere = rs ↔ rs.relayTable? = none := by
  rw [relayTable?, ← Table.erase_eq_self_iff, elsewhere, Ruleset.mk.injEq]

@[simp] theorem elsewhere_elsewhere (rs : Ruleset) : rs.elsewhere.elsewhere = rs.elsewhere :=
  (elsewhere_eq_self_iff _).2 rs.relayTable?_elsewhere

@[simp] theorem elsewhere_setRelayTable (rs : Ruleset) (t : NftTable) :
    (rs.setRelayTable t).elsewhere = rs.elsewhere :=
  congrArg mk (Table.erase_insert _ _ _)

theorem elsewhere_of_addition {rs rs' : Ruleset} {r : Redirect}
    (h : rs.run? r.addition = some rs') : rs'.elsewhere = rs.elsewhere := by
  rw [run?_addition] at h
  rw [← Option.some.inj h, elsewhere_setRelayTable]

theorem relayChain?_eq (rs : Ruleset) :
    rs.relayChain? = (rs.relayTable?.getD {}).chains.find? Redirect.chainName := by
  rw [relayChain?]
  cases rs.relayTable? with
  | none => rfl
  | some t => rfl

/-- An addition puts its rule after those that are there. -/
theorem ownedRules_of_addition {rs rs' : Ruleset} {r : Redirect}
    (h : rs.run? r.addition = some rs') : rs'.ownedRules = rs.ownedRules ++ [r.rule] := by
  rw [run?_addition] at h
  have hchain : rs'.relayChain? = some (r.chainIn (rs.relayTable?.getD {})) := by
    rw [← Option.some.inj h, relayChain?, relayTable?_setRelayTable, Option.bind_some]
    exact Table.find?_insert_self _ _ _
  rw [ownedRules, hchain, ownedRules, relayChain?_eq]
  cases hc : (rs.relayTable?.getD {}).chains.find? Redirect.chainName with
  | none => simp [Redirect.chainIn, hc, r.owned_rule]
  | some c => simp [Redirect.chainIn, hc, r.owned_rule]

end Ruleset

/-! ### What a call comes to -/

/-- Whether the operation is to put a redirect in place. -/
def RedirectOp.isAdd : RedirectOp → Bool
  | add _ => true
  | delete => false

/-- The state of a packet filter, and the transactions it was given in order. -/
structure NftRecord (σ : Type) where
  state : σ
  runs : List Transaction := []

/-- The same packet filter, with its transactions put on record. -/
def NftOps.recorded {σ : Type} (ops : NftOps σ) : NftOps (NftRecord σ) where
  list := fun n => ((ops.list n.state).1, { n with state := (ops.list n.state).2 })
  run := fun tx n => ((ops.run tx n.state).1, ⟨(ops.run tx n.state).2, n.runs ++ [tx]⟩)

namespace Programmer

variable {σ : Type} {ops : NftOps σ} {view : σ → Ruleset}

/-- The transactions that a call runs. -/
def runs (ops : NftOps σ) (op : RedirectOp) (s : σ) : List Transaction :=
  (program ops.recorded op ⟨s, []⟩).2.runs

theorem transaction_eq_nil_iff (b : Bool) (op : RedirectOp) :
    transaction b op = [] ↔ b = op.isAdd := by
  cases op with
  | add r => cases b <;> simp [transaction, RedirectOp.isAdd, Redirect.addition]
  | delete => cases b <;> simp [transaction, RedirectOp.isAdd, Redirect.removal]

/-- What a call on a ruleset comes to: its outcome, the transactions it runs, and the ruleset after
it. -/
inductive Programmed (op : RedirectOp) (rs : Ruleset) :
    Except NftError Unit → List Transaction → Ruleset → Prop
  /-- The listing failed. -/
  | unlisted (e : NftError) : Programmed op rs (.error e) [] rs
  /-- There was nothing to do. -/
  | inPlace (h : carriesOwned rs.relayComments = op.isAdd) : Programmed op rs (.ok ()) [] rs
  /-- The transaction failed. -/
  | refused (e : NftError) (h : carriesOwned rs.relayComments = !op.isAdd) :
      Programmed op rs (.error e) [transaction (!op.isAdd) op] rs
  | performed (h : carriesOwned rs.relayComments = !op.isAdd) {rs' : Ruleset}
      (hrun : rs.run? (transaction (!op.isAdd) op) = some rs') :
      Programmed op rs (.ok ()) [transaction (!op.isAdd) op] rs'

theorem programmed_program (hf : ops.Faithful view) (op : RedirectOp) (s : σ) :
    Programmed op (view s) (program ops op s).1 (runs ops op s) (view (program ops op s).2) := by
  have hv := view_applied hf s
  have hsame : (applied ops.recorded ⟨s, []⟩).1 = (applied ops s).1 := rfl
  unfold runs
  cases ha : (applied ops s).1 with
  | error e =>
      rw [program_of_error ha, program_of_error (hsame.trans ha), hv]
      exact .unlisted e
  | ok b =>
      have hb := applied_ok hf ha
      rw [program_of_ok ha, program_of_ok (hsame.trans ha)]
      by_cases ht : transaction b op = []
      · rw [if_pos ht, if_pos ht, hv]
        exact .inPlace (hb.symm.trans ((transaction_eq_nil_iff b op).1 ht))
      · have hne : b = !op.isAdd := Bool.eq_not.2 (mt (transaction_eq_nil_iff b op).2 ht)
        rw [if_neg ht, if_neg ht]
        rw [hne] at hb ⊢
        rw [← hv] at hb ⊢
        cases hrun : (ops.run (transaction (!op.isAdd) op) (applied ops s).2).1 with
        | error e =>
            rw [hf.run_error _ _ _ hrun]
            exact .refused e hb.symm
        | ok u => exact .performed hb.symm (hf.run_ok _ _ hrun)

namespace Programmed

variable {op : RedirectOp} {rs rs' : Ruleset} {outcome : Except NftError Unit}
  {txs : List Transaction}

theorem length_le_one (h : Programmed op rs outcome txs rs') : txs.length ≤ 1 := by
  cases h with
  | unlisted | inPlace => exact Nat.zero_le 1
  | refused | performed => exact Nat.le_refl 1

/-- Nothing is run where the redirect is in place, or gone, already. -/
theorem eq_nil (h : Programmed op rs outcome txs rs')
    (hin : carriesOwned rs.relayComments = op.isAdd) : txs = [] := by
  cases h with
  | unlisted | inPlace => rfl
  | refused e hne => simp [hin] at hne
  | performed hne hrun => simp [hin] at hne

theorem eq_of_error (h : Programmed op rs outcome txs rs') {e : NftError}
    (he : outcome = .error e) : rs' = rs := by
  cases h with
  | unlisted | refused => rfl
  | inPlace | performed => cases he

theorem carriesOwned_eq (h : Programmed op rs outcome txs rs') (hok : outcome = .ok ()) :
    carriesOwned rs'.relayComments = op.isAdd := by
  cases h with
  | unlisted | refused => cases hok
  | inPlace hin => exact hin
  | performed hne hrun =>
      cases op with
      | add r =>
          refine (Ruleset.carriesOwned_relayComments _).2 ?_
          rw [Ruleset.ownedRules_of_addition hrun]
          exact List.append_ne_nil_of_right_ne_nil _ (List.cons_ne_nil _ _)
      | delete =>
          exact (Ruleset.carriesOwned_relayComments_eq_false _).2
            (Ruleset.ownedRules_of_removal hrun)

theorem elsewhere_eq (h : Programmed op rs outcome txs rs') : rs'.elsewhere = rs.elsewhere := by
  cases h with
  | unlisted | inPlace | refused => rfl
  | performed hne hrun =>
      cases op with
      | add r => exact Ruleset.elsewhere_of_addition hrun
      | delete => rw [Ruleset.eq_elsewhere_of_removal hrun, Ruleset.elsewhere_elsewhere]

/-- A rule is added only to a chain without a relay's rule. -/
theorem length_ownedRules_le_one (h : Programmed op rs outcome txs rs')
    (hrs : rs.ownedRules.length ≤ 1) : rs'.ownedRules.length ≤ 1 := by
  cases h with
  | unlisted | inPlace | refused => exact hrs
  | performed hne hrun =>
      cases op with
      | add r =>
          rw [Ruleset.ownedRules_of_addition hrun,
            (Ruleset.carriesOwned_relayComments_eq_false _).1 hne]
          exact Nat.le_refl 1
      | delete =>
          rw [Ruleset.ownedRules_of_removal hrun]
          exact Nat.zero_le 1

/-- An addition that succeeds without the relay's table has made it in one transaction. -/
theorem relayTable?_eq {r : Redirect} (h : Programmed (.add r) rs outcome txs rs')
    (hok : outcome = .ok ()) (hnone : rs.relayTable? = none) :
    txs = [r.addition] ∧ rs'.relayTable? = some r.table := by
  have howned : carriesOwned rs.relayComments = false :=
    (Ruleset.carriesOwned_relayComments_eq_false _).2 (Ruleset.ownedRules_of_none hnone)
  cases h with
  | unlisted | refused => cases hok
  | inPlace hin => cases howned.symm.trans hin
  | performed hne hrun => exact ⟨rfl, Ruleset.relayTable?_of_addition hnone hrun⟩

end Programmed

end Programmer

/-! ### Runs of calls -/

/-- A call of the programmer, and the packet filter as it behaves meanwhile. -/
structure ProgramCall (σ : Type) where
  nft : NftOps σ
  op : RedirectOp

/-- A call that was made: what it came to, and the packet filter before and after it. -/
structure ProgramEntry (σ : Type) where
  op : RedirectOp
  before : σ
  outcome : Except NftError Unit
  runs : List Transaction
  after : σ

/-- What holds of a call in a run that began with the ruleset `start`. -/
structure ProgramEntry.Disciplined {σ : Type} (view : σ → Ruleset) (start : Ruleset)
    (e : ProgramEntry σ) : Prop where
  runs : e.runs.length ≤ 1
  failed : ∀ error, e.outcome = .error error → view e.after = view e.before
  /-- After a success, a listing that succeeds shows the redirect to be in place, or gone. -/
  applied : e.outcome = .ok () → ∀ nft : NftOps σ, nft.Faithful view →
    (Programmer.applied nft e.after).1 = (nft.list e.after).1.map fun _ => e.op.isAdd
  single : (view e.after).ownedRules.length ≤ 1
  elsewhere : (view e.after).elsewhere = start.elsewhere
  /-- Where there was no table, an addition has made one with a chain and a set. -/
  made : ∀ r, e.op = .add r → e.outcome = .ok () → (view e.before).relayTable? = none →
    e.runs = [r.addition] ∧ ∃ chain gateways,
      (view e.after).relayTable? =
        some ⟨⟨[(Redirect.chainName, chain)]⟩, ⟨[(Redirect.setName, gateways)]⟩⟩ ∧
      chain.rules = [⟨.redirect r.appPort r.relayPort, some Redirect.ownedComment⟩] ∧
      ∀ ip, ip ∈ gateways.addresses ↔ ip ∈ r.gatewayIps

namespace ProgramCall

variable {σ : Type} {view : σ → Ruleset}

open Programmer

def entry (c : ProgramCall σ) (s : σ) : ProgramEntry σ where
  op := c.op
  before := s
  outcome := (program c.nft c.op s).1
  runs := Programmer.runs c.nft c.op s
  after := (program c.nft c.op s).2

/-- What calls come to that are made one after the other. -/
def history (s : σ) : List (ProgramCall σ) → List (ProgramEntry σ)
  | [] => []
  | c :: cs => c.entry s :: history (c.entry s).after cs

/-- What a call comes to shows in the rulesets before and after it. -/
theorem programmed_entry {c : ProgramCall σ} (hf : c.nft.Faithful view) (s : σ) :
    Programmed (c.entry s).op (view s) (c.entry s).outcome (c.entry s).runs
      (view (c.entry s).after) :=
  programmed_program hf c.op s

/-- What every call keeps, every call of a history leaves. -/
theorem history_induction {I : ProgramEntry σ → Prop} {J : σ → Prop} (calls : List (ProgramCall σ))
    (hstep : ∀ c ∈ calls, ∀ s, J s → I (c.entry s) ∧ J (c.entry s).after) {s : σ} (hs : J s) :
    ∀ e ∈ history s calls, I e := by
  induction calls generalizing s with
  | nil => simp [history]
  | cons c cs ih =>
      obtain ⟨he, hafter⟩ := hstep c List.mem_cons_self s hs
      exact List.forall_mem_cons.2
        ⟨he, ih (fun c' hc' => hstep c' (List.mem_cons_of_mem c hc')) hafter⟩

/-- A history in which no two neighbours break a rule that every call keeps after any other. -/
theorem isChain_history {R : ProgramEntry σ → ProgramEntry σ → Prop}
    (calls : List (ProgramCall σ))
    (hstep : ∀ c ∈ calls, ∀ c' ∈ calls, ∀ s, R (c.entry s) (c'.entry (c.entry s).after)) (s : σ) :
    (history s calls).IsChain R := by
  induction calls generalizing s with
  | nil => exact .nil
  | cons c cs ih =>
      have hrest := ih (fun a ha b hb =>
        hstep a (List.mem_cons_of_mem c ha) b (List.mem_cons_of_mem c hb)) (c.entry s).after
      cases cs with
      | nil => exact .singleton _
      | cons c' cs =>
          exact .cons_cons
            (hstep c List.mem_cons_self c' (List.mem_cons_of_mem c List.mem_cons_self) s) hrest

theorem disciplined_entry {c : ProgramCall σ} (hf : c.nft.Faithful view) {s : σ}
    {start : Ruleset} (hsingle : (view s).ownedRules.length ≤ 1)
    (helse : (view s).elsewhere = start.elsewhere) : (c.entry s).Disciplined view start := by
  have h := programmed_entry hf s
  refine
    { runs := h.length_le_one
      failed := fun error he => h.eq_of_error he
      applied := fun hok nft hnft => ?_
      single := h.length_ownedRules_le_one hsingle
      elsewhere := h.elsewhere_eq.trans helse
      made := fun r hop hok hnone => ?_ }
  · rw [applied_eq hnft, h.carriesOwned_eq hok]
  · rw [hop] at h
    obtain ⟨hruns, htable⟩ := h.relayTable?_eq hok hnone
    exact ⟨hruns, _, _, htable, rfl, r.mem_gatewaySet⟩

/-- The programmer is called with any operations one after the other, on any ruleset whose relay
chain holds at most one rule of a relay, and listing and running may fail each time. A call runs at
most one transaction. If it fails, the ruleset is as before; if it succeeds, the redirect is seen to
be in place after an addition, and gone after a deletion, and another call for the same runs
nothing. There is never a second rule of a relay, what is not in the relay's table never changes,
and an addition where that table is missing leaves one with the redirecting rule and the addresses
of the gateway alone. -/
theorem programming_disciplined (calls : List (ProgramCall σ))
    (hf : ∀ c ∈ calls, c.nft.Faithful view) {s : σ} (hs : (view s).ownedRules.length ≤ 1) :
    (∀ e ∈ history s calls, e.Disciplined view (view s)) ∧
      (history s calls).IsChain fun e next =>
        e.outcome = .ok () → next.op.isAdd = e.op.isAdd → next.runs = [] := by
  constructor
  · refine history_induction
      (J := fun s' => (view s').ownedRules.length ≤ 1 ∧ (view s').elsewhere = (view s).elsewhere)
      calls ?_ ⟨hs, rfl⟩
    rintro c hc s' ⟨hsingle, helse⟩
    have h := disciplined_entry (hf c hc) hsingle helse
    exact ⟨h, h.single, h.elsewhere⟩
  · refine isChain_history calls (fun c hc c' hc' s' hok hop => ?_) s
    refine (programmed_entry (hf c' hc') (c.entry s').after).eq_nil ?_
    rw [(programmed_entry (hf c hc) s').carriesOwned_eq hok]
    exact hop.symm

end ProgramCall

/-! ### A scripted packet filter -/

namespace ScriptedNft

/-- A packet filter that cannot be listed. -/
def unreadableOps : NftOps ScriptedNft := { ops with list := fun n => (.error .json, n) }

/-- A packet filter that refuses every transaction. -/
def lockedOps : NftOps ScriptedNft := { ops with run := fun _ n => (.error (failure "busy"), n) }

theorem faithful_unreadableOps : unreadableOps.Faithful ruleset :=
  { faithful_ops with
    list_view := fun _ => rfl
    list_ok := fun _ _ h => by cases h }

theorem faithful_lockedOps : lockedOps.Faithful ruleset :=
  { faithful_ops with
    run_ok := fun _ _ h => by cases h
    run_error := fun _ _ _ _ => rfl }

/-- A relay chain with a rule of someone else, and a table of someone else. -/
def sharedNft : ScriptedNft where
  ruleset :=
    (⟨⟨[(("ip", "nat"), ⟨⟨[("prerouting", {})]⟩, {}⟩)]⟩⟩ : Ruleset).withComments
      (some [some "kube-proxy"])

end ScriptedNft

def shopRedirect : Redirect := ⟨[⟨10, 0, 0, 7⟩], 8080, 50010⟩

namespace ProgramCall

open ScriptedNft

/-- Additions and deletions of which each is repeated, at first because of a failure. -/
def retriedCalls : List (ProgramCall ScriptedNft) :=
  [ ⟨unreadableOps, .add shopRedirect⟩, ⟨lockedOps, .add shopRedirect⟩,
    ⟨ScriptedNft.ops, .add shopRedirect⟩, ⟨ScriptedNft.ops, .add ⟨[], 8081, 50011⟩⟩,
    ⟨lockedOps, .delete⟩, ⟨ScriptedNft.ops, .delete⟩, ⟨ScriptedNft.ops, .delete⟩,
    ⟨ScriptedNft.ops, .add ⟨[], 8081, 50011⟩⟩ ]

theorem retriedCalls_disciplined :
    let h := history sharedNft retriedCalls
    h.map ProgramEntry.runs =
        [[], [shopRedirect.addition], [shopRedirect.addition], [], [Redirect.removal],
          [Redirect.removal], [], [Redirect.addition ⟨[], 8081, 50011⟩]] ∧
      (∀ e ∈ h, e.Disciplined ruleset sharedNft.ruleset) ∧
      h.IsChain fun e next =>
        e.outcome = .ok () → next.op.isAdd = e.op.isAdd → next.runs = [] := by
  have hf : ∀ c ∈ retriedCalls, c.nft.Faithful ruleset := by
    simp [retriedCalls, faithful_unreadableOps, faithful_lockedOps, faithful_ops]
  exact ⟨by decide, programming_disciplined retriedCalls hf (by decide)⟩

end ProgramCall

/-! ### A redirect that is added and deleted -/

namespace Programmer

variable {σ : Type} {view : σ → Ruleset}

/-- Where no rule is a relay's, an addition and a deletion that succeed leave the ruleset as it was
but for the relay's table, which is gone. So they restore it exactly if there was no such table. -/
theorem withdrawn_redirect {nft nft' : NftOps σ} (hf : nft.Faithful view)
    (hf' : nft'.Faithful view) {s : σ} (hs : (view s).ownedRules = []) (r : Redirect)
    (hadd : (program nft (.add r) s).1 = .ok ())
    (hdelete : (program nft' .delete (program nft (.add r) s).2).1 = .ok ()) :
    let restored := view (program nft' .delete (program nft (.add r) s).2).2
    restored = (view s).elsewhere ∧ (restored = view s ↔ (view s).relayTable? = none) := by
  intro restored
  have hadded := program_ok hf hadd
  rw [(Ruleset.carriesOwned_relayComments_eq_false _).2 hs] at hadded
  have howned := (programmed_program hf (.add r) s).carriesOwned_eq hadd
  have hremoved := program_ok hf' hdelete
  rw [howned] at hremoved
  have hrestored : restored = (view s).elsewhere := by
    rw [← Ruleset.elsewhere_of_addition hadded]
    exact Ruleset.eq_elsewhere_of_removal hremoved
  exact ⟨hrestored, by rw [hrestored, Ruleset.elsewhere_eq_self_iff]⟩

/-- The rule of someone else goes with the table; the table of someone else stays. -/
theorem sharedNft_withdrawn :
    let n := (program ScriptedNft.ops (.add shopRedirect) ScriptedNft.sharedNft).2
    let restored := (program ScriptedNft.ops .delete n).2.ruleset
    restored = ScriptedNft.sharedNft.ruleset.elsewhere ∧
      restored ≠ ScriptedNft.sharedNft.ruleset := by
  obtain ⟨helse, hiff⟩ := withdrawn_redirect ScriptedNft.faithful_ops ScriptedNft.faithful_ops
    (s := ScriptedNft.sharedNft) (by decide) shopRedirect (by decide) (by decide)
  exact ⟨helse, mt hiff.1 (by decide)⟩

/-- An addition and a deletion that succeed do not always restore the ruleset. -/
theorem redirect_not_always_withdrawn :
    ¬ ∀ (n : ScriptedNft) (r : Redirect), n.ruleset.ownedRules = [] →
      let added := program ScriptedNft.ops (.add r) n
      let deleted := program ScriptedNft.ops .delete added.2
      added.1 = .ok () → deleted.1 = .ok () → deleted.2.ruleset = n.ruleset := by
  intro h
  have hrestored := h ScriptedNft.sharedNft shopRedirect (by decide) (by decide) (by decide)
  exact absurd hrestored (by decide)

end Programmer

end WafControl
