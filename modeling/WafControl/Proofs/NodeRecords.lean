import WafControl.Proofs.Reconciling
import WafControl.Relay.ScriptedNode

/-!
# What a reconciliation asks of a node

The operations of a node can be observed: each is carried out as before, and probes, spawns, starts
and stops are put on record, together with the node after them. Being observed changes neither the
outcome of a reconciliation nor the node (`performed_observed`), so the record is what the
reconciliation asks of its node.

What a reconciliation keeps follows from what its operations keep. Only those of its intent count:
spawns and starts for a relay's presence (`finish_present_induction`), a stop for its absence
(`finish_absent_induction`).
-/

namespace WafControl

/-- An operation that was asked of a node, and the node after it. -/
structure NodeEvent (τ : Type) where
  call : NodeCall
  node : τ

/-- A node, and what was asked of it in order. -/
structure Observed (τ : Type) where
  node : τ
  events : List (NodeEvent τ) := []

def Observed.note {τ : Type} (o : Observed τ) (call : NodeCall) (node : τ) : Observed τ :=
  ⟨node, o.events ++ [⟨call, node⟩]⟩

/-- The same operations, put on record. Lookups are not. -/
def NodeOps.observed {τ : Type} (ops : NodeOps τ) : NodeOps (Observed τ) where
  container := fun pod o =>
    ((ops.container pod o.node).1, { o with node := (ops.container pod o.node).2 })
  networkNamespace := fun container o =>
    ((ops.networkNamespace container o.node).1,
      { o with node := (ops.networkNamespace container o.node).2 })
  probe := fun k o =>
    ((ops.probe k o.node).1,
      o.note (.probe k (ops.probe k o.node).1) (ops.probe k o.node).2)
  spawn := fun inst o =>
    ((ops.spawn inst o.node).1, o.note (.spawn inst) (ops.spawn inst o.node).2)
  start := fun k options o =>
    ((ops.start k options o.node).1, o.note (.start k options) (ops.start k options o.node).2)
  stop := fun k o => ((ops.stop k o.node).1, o.note (.stop k) (ops.stop k o.node).2)

namespace RelayController

section Parts

variable {σ : Type} {c : RelayController} {ops : NodeOps σ} {p q : PendingStart} {s s' : σ}

/-- Does what an intent calls for, given what a probe found. -/
def pursue (c : RelayController) (ops : NodeOps σ) (intent : Intent) (inst : RelayInstance)
    (found : ProbeState) (s : σ) : Except Failure Unit × σ :=
  match intent with
  | .present options => c.finish ops (c.present ops inst options found s)
  | .absent => c.finish ops (absent ops inst found s)

theorem performed_of_error {call : RelayCall} {e : Failure}
    (h : c.locate ops call.pod s = (.error e, s')) :
    c.performed ops call s = (.error e, s') := by
  rw [performed, h]

theorem performed_of_ok {call : RelayCall} {inst : RelayInstance}
    (h : c.locate ops call.pod s = (.ok inst, s')) :
    c.performed ops call s =
      c.pursue ops call.intent inst (ops.probe inst.netns s').1 (ops.probe inst.netns s').2 := by
  rw [performed, h]
  rfl

theorem startSpawned_of_finished {outcome : Except Failure Unit}
    (h : c.tryStart ops p s = (.finished outcome, s')) :
    c.startSpawned ops p s = (outcome, [], s') := by
  rw [startSpawned]
  split
  · rename_i h'
    cases h.symm.trans h'
    rfl
  · rename_i h'
    cases h.symm.trans h'

theorem startSpawned_of_waiting {d : Duration}
    (h : c.tryStart ops p s = (.waiting d q, s')) :
    c.startSpawned ops p s =
      ((c.startSpawned ops q s').1, d :: (c.startSpawned ops q s').2.1,
        (c.startSpawned ops q s').2.2) := by
  rw [startSpawned]
  split
  · rename_i h'
    cases h.symm.trans h'
  · rename_i h'
    cases h.symm.trans h'
    rfl

end Parts

/-! ### What the operations keep -/

section Induction

variable {σ : Type} {ops : NodeOps σ} {I : σ → Prop} {s : σ}

theorem startSpawned_induction (c : RelayController) (p : PendingStart)
    (hstart : ∀ k options s, I s → I (ops.start k options s).2) (h : I s) :
    I (c.startSpawned ops p s).2.2 := by
  fun_induction startSpawned c ops p s with
  | case1 p s outcome s' hfinished =>
      obtain ⟨answer, hs, -⟩ := start_of_tryStart_finished hfinished
      have hnext := hstart p.netns p.options s h
      rwa [hs] at hnext
  | case2 p s d q s' hwaiting rest ih =>
      obtain ⟨⟨e, hs⟩, -⟩ := start_of_tryStart_waiting hwaiting
      have hnext := hstart p.netns p.options s h
      rw [hs] at hnext
      exact ih hnext

theorem finish_present_induction (c : RelayController) (inst : RelayInstance)
    (options : RelayOptions) (found : ProbeState)
    (hspawn : found = .absent → I (ops.spawn inst s).2)
    (hstart : ∀ k options s, I s → I (ops.start k options s).2) (h : I s) :
    I (c.finish ops (c.present ops inst options found s)).2 := by
  cases found with
  | active => exact h
  | unknown => exact h
  | idle => exact hstart inst.netns options s h
  | absent =>
      have hspawned := hspawn rfl
      rw [present]
      cases hs : ops.spawn inst s with
      | mk answer s' =>
          rw [hs] at hspawned
          cases answer with
          | error e => exact hspawned
          | ok u =>
              simp only
              rw [finish_tryStart]
              exact startSpawned_induction c _ hstart hspawned

theorem finish_absent_induction (c : RelayController) (inst : RelayInstance)
    (found : ProbeState) (hstop : I (ops.stop inst.netns s).2) (h : I s) :
    I (c.finish ops (absent ops inst found s)).2 := by
  cases found with
  | active => exact hstop
  | idle => exact h
  | absent => exact h
  | unknown => exact hstop

end Induction

/-! ### Being observed -/

section Observing

variable {τ : Type} (c : RelayController) (ops : NodeOps τ) (o : Observed τ)

theorem locate_observed (pod : PodRef) :
    c.locate ops.observed pod o =
      ((c.locate ops pod o.node).1, { o with node := (c.locate ops pod o.node).2 }) := by
  simp only [locate, NodeOps.observed]
  cases ops.container pod o.node with
  | mk found n =>
      cases found with
      | error e => rfl
      | ok container =>
          simp only
          cases ops.networkNamespace container n with
          | mk found n =>
              cases found with
              | error e => rfl
              | ok netns => rfl

theorem tryStart_observed (p : PendingStart) :
    Prod.map id Observed.node (c.tryStart ops.observed p o) = c.tryStart ops p o.node := by
  simp only [tryStart, NodeOps.observed]
  cases ops.start p.netns p.options o.node with
  | mk answer n =>
      cases answer with
      | ok u => rfl
      | error e =>
          simp only
          split
          · rfl
          · rfl

theorem startSpawned_observed (p : PendingStart) :
    (c.startSpawned ops.observed p o).1 = (c.startSpawned ops p o.node).1 ∧
      (c.startSpawned ops.observed p o).2.2.node = (c.startSpawned ops p o.node).2.2 := by
  fun_induction startSpawned c ops.observed p o with
  | case1 p o outcome o' hfinished =>
      have h := c.tryStart_observed ops o p
      rw [hfinished] at h
      rw [startSpawned_of_finished h.symm]
      exact ⟨rfl, rfl⟩
  | case2 p o d q o' hwaiting rest ih =>
      have h := c.tryStart_observed ops o p
      rw [hwaiting] at h
      rw [startSpawned_of_waiting h.symm]
      exact ih

theorem finish_observed (progress : Progress) :
    Prod.map id Observed.node (c.finish ops.observed (progress, o)) =
      c.finish ops (progress, o.node) := by
  cases progress with
  | finished outcome => rfl
  | waiting d p =>
      obtain ⟨houtcome, hnode⟩ := c.startSpawned_observed ops o p
      exact Prod.ext houtcome hnode

theorem present_observed (inst : RelayInstance) (options : RelayOptions) (found : ProbeState) :
    Prod.map id Observed.node (c.present ops.observed inst options found o) =
      c.present ops inst options found o.node := by
  cases found with
  | active => rfl
  | unknown => rfl
  | idle => rfl
  | absent =>
      simp only [present]
      rw [show ops.observed.spawn inst o = ((ops.spawn inst o.node).1,
        o.note (.spawn inst) (ops.spawn inst o.node).2) from rfl]
      cases ops.spawn inst o.node with
      | mk answer n =>
          cases answer with
          | error e => rfl
          | ok u => exact c.tryStart_observed ops _ _

theorem absent_observed (inst : RelayInstance) (found : ProbeState) :
    Prod.map id Observed.node (absent ops.observed inst found o) =
      absent ops inst found o.node := by
  cases found with
  | active => rfl
  | idle => rfl
  | absent => rfl
  | unknown => rfl

theorem pursue_observed (intent : Intent) (inst : RelayInstance) (found : ProbeState) :
    Prod.map id Observed.node (c.pursue ops.observed intent inst found o) =
      c.pursue ops intent inst found o.node := by
  cases intent with
  | present options =>
      have h := c.present_observed ops o inst options found
      rw [pursue, pursue, ← h]
      exact c.finish_observed ops _ _
  | absent =>
      have h := absent_observed ops o inst found
      rw [pursue, pursue, ← h]
      exact c.finish_observed ops _ _

/-- Observing a reconciliation changes neither its outcome nor the node. -/
theorem performed_observed (call : RelayCall) :
    Prod.map id Observed.node (c.performed ops.observed call o) =
      c.performed ops call o.node := by
  cases hl : c.locate ops call.pod o.node with
  | mk located n =>
      have hlo := c.locate_observed ops o call.pod
      rw [hl] at hlo
      cases located with
      | error e =>
          rw [performed_of_error hl, performed_of_error hlo]
          rfl
      | ok inst =>
          rw [performed_of_ok hl, performed_of_ok hlo]
          exact c.pursue_observed ops _ call.intent inst _

/-- The operations that a call asks of a node, lookups apart. -/
def asked (call : RelayCall) (s : Supervised τ) : List (NodeEvent τ) :=
  (c.reconcile ops.observed call ⟨⟨s.node, []⟩, s.counts⟩).2.2.node.events

theorem asked_eq_performed (call : RelayCall) (s : Supervised τ) :
    c.asked ops call s = (c.performed ops.observed call ⟨s.node, []⟩).2.events := by
  rw [asked, (c.reconcile_eq_performed ops.observed call _).2]

variable {c ops} {call : RelayCall} {s : Supervised τ} {n : τ}

theorem asked_of_error {e : Failure} (h : c.locate ops call.pod s.node = (.error e, n)) :
    c.asked ops call s = [] := by
  have hl := c.locate_observed ops ⟨s.node, []⟩ call.pod
  rw [h] at hl
  rw [asked_eq_performed, performed_of_error hl]

theorem asked_of_ok {inst : RelayInstance} (h : c.locate ops call.pod s.node = (.ok inst, n)) :
    c.asked ops call s = (c.pursue ops.observed call.intent inst (ops.probe inst.netns n).1
      (Observed.note ⟨n, []⟩ (.probe inst.netns (ops.probe inst.netns n).1)
        (ops.probe inst.netns n).2)).2.events := by
  have hl := c.locate_observed ops ⟨s.node, []⟩ call.pod
  rw [h] at hl
  rw [asked_eq_performed, performed_of_ok hl]
  rfl

end Observing

end RelayController

end WafControl
