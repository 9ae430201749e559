import WafControl.Relay.Controller

/-!
# Reconciliations without their counts

A reconciliation counts its probe and its outcome, and it may wait between two starts. Neither
affects what it does to the node: `performed` runs a reconciliation on the node alone, and
`reconcile_eq_performed` says that this gives the same outcome and the same node.
-/

namespace WafControl

namespace RelayController

variable {σ : Type} (c : RelayController) (ops : NodeOps σ)

/-- Makes the starts that a reconciliation still has to make. -/
def finish : Progress × σ → Except Failure Unit × σ
  | (.finished outcome, n) => (outcome, n)
  | (.waiting _ p, n) => ((c.startSpawned ops p n).1, (c.startSpawned ops p n).2.2)

/-- What a reconciliation does to a node, and its outcome. -/
def performed (call : RelayCall) (n : σ) : Except Failure Unit × σ :=
  match c.locate ops call.pod n with
  | (.error e, n) => (.error e, n)
  | (.ok inst, n) =>
    let probed := ops.probe inst.netns n
    match call.intent with
    | .present options => c.finish ops (c.present ops inst options probed.1 probed.2)
    | .absent => c.finish ops (absent ops inst probed.1 probed.2)

/-- All starts of a spawned relay are the first one and those after it. -/
theorem finish_tryStart (p : PendingStart) (n : σ) :
    c.finish ops (c.tryStart ops p n) =
      ((c.startSpawned ops p n).1, (c.startSpawned ops p n).2.2) := by
  rw [startSpawned]
  split
  · rename_i outcome n' h
    rw [h]
    rfl
  · rename_i d q n' h
    rw [h]
    rfl

theorem record_fst (action : RelayAction) (step : Progress × Supervised σ) :
    (record action step).1 = step.1 ∧ (record action step).2.node = step.2.node := by
  obtain ⟨progress, s⟩ := step
  cases progress with
  | finished outcome => exact ⟨rfl, rfl⟩
  | waiting d p => exact ⟨rfl, rfl⟩

/-- How a reconciliation begins, on the node alone. -/
theorem finish_begin (call : RelayCall) (s : Supervised σ) :
    c.finish ops ((c.begin ops call s).1, (c.begin ops call s).2.node) =
      c.performed ops call s.node := by
  unfold begin performed
  rw [(record_fst _ _).1, (record_fst _ _).2]
  cases hl : c.locate ops call.pod s.node with
  | mk located n =>
      cases located with
      | error e => rfl
      | ok inst =>
          cases hi : call.intent with
          | present options => simp only [probe]
          | absent => simp only [probe]

theorem reconcile_eq_performed (call : RelayCall) (s : Supervised σ) :
    (c.reconcile ops call s).1 = (c.performed ops call s.node).1 ∧
      (c.reconcile ops call s).2.2.node = (c.performed ops call s.node).2 := by
  rw [← finish_begin, reconcile]
  cases hb : c.begin ops call s with
  | mk progress s' =>
      cases progress with
      | finished outcome => exact ⟨rfl, rfl⟩
      | waiting d p => exact ⟨rfl, rfl⟩

variable {c ops}

/-- What lookups leave unchanged is unchanged once a pod is located. -/
theorem locate_unchanged {α : Type} (f : σ → α)
    (hcontainer : ∀ pod s, f (ops.container pod s).2 = f s)
    (hnamespace : ∀ container s, f (ops.networkNamespace container s).2 = f s)
    (pod : PodRef) (s : σ) : f (c.locate ops pod s).2 = f s := by
  have hc := hcontainer pod s
  unfold locate
  cases ha : ops.container pod s with
  | mk found s₁ =>
      rw [ha] at hc
      cases found with
      | error e => exact hc
      | ok container =>
          have hn := hnamespace container s₁
          simp only
          cases hb : ops.networkNamespace container s₁ with
          | mk found s₂ =>
              rw [hb] at hn
              cases found with
              | error e => exact hn.trans hc
              | ok netns => exact hn.trans hc

/-- A start that is the last one succeeds exactly when its reconciliation does. -/
theorem start_of_tryStart_finished {p : PendingStart} {n n' : σ} {outcome : Except Failure Unit}
    (h : c.tryStart ops p n = (.finished outcome, n')) :
    ∃ answer, ops.start p.netns p.options n = (answer, n') ∧
      (outcome = .ok () ↔ answer = .ok ()) := by
  unfold tryStart at h
  split at h
  · rename_i n₁ hs
    cases h
    exact ⟨.ok (), hs, Iff.rfl⟩
  · rename_i e n₁ hs
    split at h
    · cases h
    · cases h
      exact ⟨.error e, hs, by simp⟩

/-- A start is tried again only after it failed, and for the same relay. -/
theorem start_of_tryStart_waiting {p q : PendingStart} {n n' : σ} {d : Duration}
    (h : c.tryStart ops p n = (.waiting d q, n')) :
    (∃ e, ops.start p.netns p.options n = (.error e, n')) ∧ q.netns = p.netns ∧
      q.options = p.options := by
  unfold tryStart at h
  split at h
  · cases h
  · rename_i e n₁ hs
    split at h
    · cases h
      exact ⟨⟨e, hs⟩, rfl, rfl⟩
    · cases h

end RelayController

end WafControl
