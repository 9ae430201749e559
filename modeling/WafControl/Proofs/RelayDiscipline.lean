import WafControl.Proofs.NodeRecords
import WafControl.Proofs.OptionsInForce

/-!
# One relay for each namespace

A controller stores nothing about relays: each call probes the relay anew and does what is missing.
On a node whose relay processes last (`NodeOps.Lasting`) this is enough for every run of calls, also
where calls were left half done. No namespace gets a second relay process, a call asks only for what
its intent is about, and repeating a call that succeeded asks for nothing but the probe
(`relay_discipline`).
-/

namespace WafControl

/-- The relay processes in a network namespace, and whether the one that answers forwards. -/
structure RelayProcesses where
  count : Nat := 0
  forwards : Bool := false
  deriving DecidableEq, Repr

namespace RelayProcesses

def state (p : RelayProcesses) : ProbeState :=
  if p.count = 0 then .absent else if p.forwards then .active else .idle

/-- With one process more. It comes up idle, and a process that was there before goes on answering
in its place. -/
def spawned (p : RelayProcesses) : RelayProcesses := ⟨p.count + 1, p.forwards && p.count != 0⟩

variable {p : RelayProcesses}

theorem state_eq_absent_iff : p.state = .absent ↔ p.count = 0 := by
  unfold state
  split
  · simp [*]
  · split <;> simp [*]

theorem state_eq_active_iff : p.state = .active ↔ p.count ≠ 0 ∧ p.forwards = true := by
  unfold state
  split
  · simp [*]
  · split <;> simp [*]

theorem state_ne_unknown : p.state ≠ .unknown := by
  unfold state
  split
  · simp
  · split <;> simp

end RelayProcesses

/-- Relay processes never exit. A spawn that succeeds makes one and one that fails makes none, a
start or a stop that succeeds takes effect, and a probe finds the state as it is or learns
nothing. -/
structure NodeOps.Lasting {τ : Type} (ops : NodeOps τ) (processes : τ → String → RelayProcesses) :
    Prop where
  container : ∀ pod s, processes (ops.container pod s).2 = processes s
  networkNamespace : ∀ container s, processes (ops.networkNamespace container s).2 = processes s
  probe : ∀ k s, processes (ops.probe k s).2 = processes s
  found : ∀ k s, (ops.probe k s).1 = (processes s k).state ∨ (ops.probe k s).1 = .unknown
  spawn_ok : ∀ inst s, (ops.spawn inst s).1 = .ok () → processes (ops.spawn inst s).2 =
    Function.update (processes s) inst.netns (processes s inst.netns).spawned
  spawn_error : ∀ inst s e, (ops.spawn inst s).1 = .error e →
    processes (ops.spawn inst s).2 = processes s
  start_count : ∀ k options s j,
    (processes (ops.start k options s).2 j).count = (processes s j).count
  start_ok : ∀ k options s, (ops.start k options s).1 = .ok () →
    (processes (ops.start k options s).2 k).forwards = true
  stop_count : ∀ k s j, (processes (ops.stop k s).2 j).count = (processes s j).count
  stop_ok : ∀ k s, (ops.stop k s).1 = .ok () → (processes (ops.stop k s).2 k).forwards = false

/-- Whether a relay in the given state is as wanted. -/
def Intent.MetBy : Intent → ProbeState → Prop
  | .present _, state => state = .active
  | .absent, state => state ≠ .active

namespace RelayCounts

/-- How many reconciliations there were with an action and a result. -/
def reconcileCount (m : RelayCounts) (action : RelayAction) (ok : Bool) : Nat :=
  (m.reconciles.find? (action, ok)).getD 0

theorem reconcileCount_probed (m : RelayCounts) (found : ProbeState) (action : RelayAction)
    (ok : Bool) : (m.probed found).reconcileCount action ok = m.reconcileCount action ok := rfl

theorem reconcileCount_reconciled (m : RelayCounts) (action action' : RelayAction)
    (ok ok' : Bool) :
    (m.reconciled action' ok').reconcileCount action ok =
      m.reconcileCount action ok + if action = action' ∧ ok = ok' then 1 else 0 := by
  rw [reconcileCount, reconciled, Table.modify]
  by_cases h : action = action' ∧ ok = ok'
  · obtain ⟨rfl, rfl⟩ := h
    simp [reconcileCount]
  · have hne : (action, ok) ≠ (action', ok') := fun he => h (Prod.mk.inj he)
    rw [if_neg h, Table.find?_insert_of_ne _ hne]
    rfl

end RelayCounts

namespace RelayController

section Counts

variable {τ : Type} {c : RelayController} {ops : NodeOps τ} {call : RelayCall} {s : Supervised τ}
  {n : τ}

theorem counts_reconcile_of_error {e : Failure}
    (h : c.locate ops call.pod s.node = (.error e, n)) :
    (c.reconcile ops call s).2.2.counts = s.counts.reconciled call.intent.action false := by
  rw [reconcile, begin, h]
  rfl

theorem counts_reconcile_of_ok {inst : RelayInstance}
    (h : c.locate ops call.pod s.node = (.ok inst, n)) :
    (c.reconcile ops call s).2.2.counts =
      (s.counts.probed (ops.probe inst.netns n).1).reconciled call.intent.action
        (c.reconcile ops call s).1.isOk := by
  obtain ⟨progress, node, hb⟩ : ∃ progress node, c.begin ops call s =
      record call.intent.action (progress, ⟨node, s.counts.probed (ops.probe inst.netns n).1⟩) := by
    rw [begin, h]
    exact ⟨_, _, rfl⟩
  rw [reconcile, hb]
  cases progress with
  | finished outcome => rfl
  | waiting d p => rfl

end Counts

/-! ### What lasts -/

variable {τ : Type} {processes : τ → String → RelayProcesses}

/-- No namespace has two relay processes, now or after an operation that was asked for. -/
def Solitary (processes : τ → String → RelayProcesses) (o : Observed τ) : Prop :=
  ∀ k, (processes o.node k).count ≤ 1 ∧ ∀ e ∈ o.events, (processes e.node k).count ≤ 1

theorem Solitary.note {o : Observed τ} (h : Solitary processes o) (call : NodeCall) {n : τ}
    (hn : ∀ k, (processes n k).count ≤ 1) : Solitary processes (o.note call n) := by
  intro k
  refine ⟨hn k, fun e he => ?_⟩
  rcases List.mem_append.1 he with he | he
  · exact (h k).2 e he
  · rw [List.mem_singleton.1 he]
    exact hn k

section Lasting

variable {ops : NodeOps τ} {o : Observed τ} (hops : ops.Lasting processes)

include hops

/-- A relay that a probe finds absent has no process. -/
theorem count_of_absent {k : String} {s : τ} (h : (ops.probe k s).1 = .absent) :
    (processes s k).count = 0 := by
  rcases hops.found k s with hstate | hunknown
  · exact RelayProcesses.state_eq_absent_iff.1 (hstate.symm.trans h)
  · rw [h] at hunknown
    cases hunknown

theorem Solitary.spawn (h : Solitary processes o) {inst : RelayInstance}
    (hnone : (processes o.node inst.netns).count = 0) :
    Solitary processes (ops.observed.spawn inst o).2 := by
  refine h.note _ fun k => ?_
  cases ha : (ops.spawn inst o.node).1 with
  | error e =>
      rw [hops.spawn_error inst o.node e ha]
      exact (h k).1
  | ok u =>
      rw [hops.spawn_ok inst o.node ha]
      by_cases hk : k = inst.netns
      · subst hk
        simp [RelayProcesses.spawned, hnone]
      · rw [Function.update_of_ne hk]
        exact (h k).1

theorem Solitary.pursue (c : RelayController) (intent : Intent) {inst : RelayInstance}
    {found : ProbeState} (h : Solitary processes o)
    (hfound : found = .absent → (processes o.node inst.netns).count = 0) :
    Solitary processes (c.pursue ops.observed intent inst found o).2 := by
  cases intent with
  | present options =>
      refine finish_present_induction c inst options found (fun ha => ?_) ?_ h
      · exact Solitary.spawn hops h (hfound ha)
      · intro k options o h
        refine h.note _ fun j => ?_
        rw [hops.start_count]
        exact (h j).1
  | absent =>
      refine finish_absent_induction c inst found (h.note _ fun j => ?_) h
      rw [hops.stop_count]
      exact (h j).1

theorem Solitary.performed (c : RelayController) (call : RelayCall) (h : Solitary processes o) :
    Solitary processes (c.performed ops.observed call o).2 := by
  have hprocesses := locate_unchanged (c := c) processes hops.container hops.networkNamespace
    call.pod o.node
  have hlo := c.locate_observed ops o call.pod
  cases hl : c.locate ops call.pod o.node with
  | mk located n =>
      rw [hl] at hlo hprocesses
      have hn : Solitary processes { o with node := n } := by
        intro k
        rw [hprocesses]
        exact h k
      cases located with
      | error e =>
          rw [performed_of_error hlo]
          exact hn
      | ok inst =>
          rw [performed_of_ok hlo]
          refine Solitary.pursue hops c call.intent (hn.note _ fun k => ?_) fun ha => ?_
          · rw [hops.probe]
            exact (hn k).1
          · have hnone := count_of_absent hops ha
            rw [← hops.probe] at hnone
            exact hnone

/-! ### Repeated calls -/

/-- Starts of a spawned relay leave the number of processes as it is, and have the relay forward if
one of them succeeds. -/
theorem processes_startSpawned (c : RelayController) (p : PendingStart) (s : τ) :
    (processes (c.startSpawned ops p s).2.2 p.netns).count = (processes s p.netns).count ∧
      ((c.startSpawned ops p s).1 = .ok () →
        (processes (c.startSpawned ops p s).2.2 p.netns).forwards = true) := by
  fun_induction startSpawned c ops p s with
  | case1 p s outcome s' hfinished =>
      obtain ⟨answer, hs, hiff⟩ := start_of_tryStart_finished hfinished
      have hcount := hops.start_count p.netns p.options s p.netns
      have hstarted := hops.start_ok p.netns p.options s
      rw [hs] at hcount hstarted
      exact ⟨hcount, fun hok => hstarted (hiff.1 hok)⟩
  | case2 p s d q s' hwaiting rest ih =>
      obtain ⟨⟨e, hs⟩, hnetns, -⟩ := start_of_tryStart_waiting hwaiting
      have hcount := hops.start_count p.netns p.options s p.netns
      rw [hs] at hcount
      rw [hnetns] at ih
      exact ⟨ih.1.trans hcount, ih.2⟩

theorem active_of_present_ok (c : RelayController) (inst : RelayInstance) (options : RelayOptions)
    {s : τ}
    (hok : (c.finish ops (c.present ops inst options (processes s inst.netns).state s)).1 =
      .ok ()) :
    (processes (c.finish ops
      (c.present ops inst options (processes s inst.netns).state s)).2 inst.netns).state =
        .active := by
  cases hstate : (processes s inst.netns).state with
  | active => exact hstate
  | unknown => exact absurd hstate RelayProcesses.state_ne_unknown
  | idle =>
      rw [hstate] at hok
      refine RelayProcesses.state_eq_active_iff.2 ⟨fun h => ?_, hops.start_ok _ options s hok⟩
      have hcount := hops.start_count inst.netns options s inst.netns
      have habsent := RelayProcesses.state_eq_absent_iff.2 (hcount.symm.trans h)
      rw [hstate] at habsent
      cases habsent
  | absent =>
      rw [hstate, present] at hok
      rw [present]
      have hspawn := hops.spawn_ok inst s
      cases hs : ops.spawn inst s with
      | mk answer s' =>
          rw [hs] at hspawn hok
          cases answer with
          | error e => cases hok
          | ok u =>
              simp only at hok ⊢
              rw [finish_tryStart] at hok ⊢
              obtain ⟨hcount, hforwards⟩ :=
                processes_startSpawned hops c ⟨inst.netns, options, c.startBackoff.retry⟩ s'
              refine RelayProcesses.state_eq_active_iff.2 ⟨?_, hforwards hok⟩
              rw [hcount, hspawn rfl, Function.update_self]
              exact Nat.succ_ne_zero _

theorem not_active_of_absent_ok (c : RelayController) (inst : RelayInstance) {s : τ}
    (hok : (c.finish ops (absent ops inst (processes s inst.netns).state s)).1 = .ok ()) :
    (processes (c.finish ops
      (absent ops inst (processes s inst.netns).state s)).2 inst.netns).state ≠ .active := by
  intro hactive
  have hforwards := (RelayProcesses.state_eq_active_iff.1 hactive).2
  cases hstate : (processes s inst.netns).state with
  | active =>
      rw [hstate] at hok hforwards
      have hstopped := hops.stop_ok inst.netns s hok
      exact absurd (hforwards.symm.trans hstopped) (by decide)
  | unknown => exact absurd hstate RelayProcesses.state_ne_unknown
  | idle =>
      rw [hstate] at hactive
      exact absurd (hstate.symm.trans hactive) (by decide)
  | absent =>
      rw [hstate] at hactive
      exact absurd (hstate.symm.trans hactive) (by decide)

/-- What an intent wants is so once its pursuit has succeeded. -/
theorem met_of_pursue_ok (c : RelayController) (intent : Intent) (inst : RelayInstance) {s : τ}
    (hok : (c.pursue ops intent inst (processes s inst.netns).state s).1 = .ok ()) :
    intent.MetBy
      (processes (c.pursue ops intent inst (processes s inst.netns).state s).2 inst.netns).state := by
  cases intent with
  | present options => exact active_of_present_ok hops c inst options hok
  | absent => exact not_active_of_absent_ok hops c inst hok

end Lasting

/-- Nothing is done about an intent that is met. -/
theorem pursue_of_met {σ : Type} (c : RelayController) (ops : NodeOps σ) {intent : Intent}
    (inst : RelayInstance) {found : ProbeState} (hmet : intent.MetBy found)
    (hfound : found ≠ .unknown) (s : σ) : c.pursue ops intent inst found s = (.ok (), s) := by
  cases intent with
  | present options =>
      rw [show found = .active from hmet]
      rfl
  | absent =>
      cases found with
      | active => exact absurd rfl hmet
      | unknown => exact absurd rfl hfound
      | idle => rfl
      | absent => rfl

/-! ### What is asked -/

section Asked

variable {c : RelayController} {ops : NodeOps τ} {call : RelayCall} {s : Supervised τ} {n : τ}
  {inst : RelayInstance}

theorem Observed.forall_note {P : NodeCall → Prop} {o : Observed τ}
    (h : ∀ e ∈ o.events, P e.call) {x : NodeCall} (hx : P x) (n : τ) :
    ∀ e ∈ (o.note x n).events, P e.call := by
  intro e he
  rcases List.mem_append.1 he with he | he
  · exact h e he
  · rw [List.mem_singleton.1 he]
    exact hx

theorem forall_asked_present {P : NodeCall → Prop} {options : RelayOptions}
    (hp : call.intent = .present options) (hprobe : ∀ k found, P (.probe k found))
    (hspawn : ∀ inst, P (.spawn inst)) (hstart : ∀ k options, P (.start k options)) :
    ∀ e ∈ c.asked ops call s, P e.call := by
  cases hl : c.locate ops call.pod s.node with
  | mk located n =>
      cases located with
      | error e => simp [asked_of_error hl]
      | ok inst =>
          rw [asked_of_ok hl, hp]
          have hprobed := Observed.forall_note (o := ⟨n, []⟩) (by simp)
            (hprobe inst.netns (ops.probe inst.netns n).1) (ops.probe inst.netns n).2
          refine @finish_present_induction _ _ (fun o : Observed τ => ∀ e ∈ o.events, P e.call)
            _ c inst options _ ?_ ?_ hprobed
          · exact fun _ => Observed.forall_note hprobed (hspawn inst) _
          · exact fun k options o h => Observed.forall_note h (hstart k options) _

theorem forall_asked_absent {P : NodeCall → Prop} (ha : call.intent = .absent)
    (hprobe : ∀ k found, P (.probe k found)) (hstop : ∀ k, P (.stop k)) :
    ∀ e ∈ c.asked ops call s, P e.call := by
  cases hl : c.locate ops call.pod s.node with
  | mk located n =>
      cases located with
      | error e => simp [asked_of_error hl]
      | ok inst =>
          rw [asked_of_ok hl, ha]
          have hprobed := Observed.forall_note (o := ⟨n, []⟩) (by simp)
            (hprobe inst.netns (ops.probe inst.netns n).1) (ops.probe inst.netns n).2
          exact @finish_absent_induction _ _ (fun o : Observed τ => ∀ e ∈ o.events, P e.call)
            _ c inst _ (Observed.forall_note hprobed (hstop inst.netns) _) hprobed

/-- A call that locates its pod probes the relay there. -/
theorem mem_asked_probe (h : c.locate ops call.pod s.node = (.ok inst, n)) :
    ∃ e ∈ c.asked ops call s, e.call = .probe inst.netns (ops.probe inst.netns n).1 := by
  have hkept : ∀ (e : NodeEvent τ) (o : Observed τ), e ∈ o.events →
      e ∈ (c.pursue ops.observed call.intent inst (ops.probe inst.netns n).1 o).2.events := by
    intro e o he
    cases call.intent with
    | present options =>
        refine @finish_present_induction _ _ (fun o : Observed τ => e ∈ o.events) _ c inst options
          _ ?_ ?_ he
        · exact fun _ => List.mem_append_left _ he
        · exact fun _ _ _ h => List.mem_append_left _ h
    | absent =>
        exact @finish_absent_induction _ _ (fun o : Observed τ => e ∈ o.events) _ c inst _
          (List.mem_append_left _ he) he
  rw [asked_of_ok h]
  exact ⟨_, hkept _ _ (List.mem_append_right _ (List.mem_singleton_self _)), rfl⟩

end Asked

/-- What every call keeps to: no namespace gets a second relay process, only what the intent is
about is asked for, nothing is if the pod is not located, and the call is counted once. -/
structure Disciplined (c : RelayController) (processes : τ → String → RelayProcesses)
    (t : RelayTurn τ) (s : Supervised τ) : Prop where
  solitary : ∀ k, (processes (c.reconcile t.ops t.call s).2.2.node k).count ≤ 1 ∧
    ∀ e ∈ c.asked t.ops t.call s, (processes e.node k).count ≤ 1
  present_asks : ∀ options, t.call.intent = .present options →
    ∀ e ∈ c.asked t.ops t.call s, ∀ k, e.call ≠ .stop k
  absent_asks : t.call.intent = .absent → ∀ e ∈ c.asked t.ops t.call s,
    (∀ inst, e.call ≠ .spawn inst) ∧ ∀ k options, e.call ≠ .start k options
  unlocated : ∀ e n, c.locate t.ops t.call.pod s.node = (.error e, n) →
    c.asked t.ops t.call s = [] ∧
      processes (c.reconcile t.ops t.call s).2.2.node = processes s.node ∧
      (c.reconcile t.ops t.call s).2.2.counts.probes = s.counts.probes
  counted : ∀ action ok, (c.reconcile t.ops t.call s).2.2.counts.reconcileCount action ok =
    s.counts.reconcileCount action ok +
      if action = t.call.intent.action ∧ ok = (c.reconcile t.ops t.call s).1.isOk then 1 else 0

variable {c : RelayController} {start : Supervised τ}

theorem disciplined {t : RelayTurn τ} (hops : t.ops.Lasting processes) {s : Supervised τ}
    (h : ∀ k, (processes s.node k).count ≤ 1) : c.Disciplined processes t s where
  solitary := by
    have hstart : Solitary processes ⟨s.node, []⟩ := fun k => ⟨h k, by simp⟩
    have hend := Solitary.performed hops c t.call hstart
    have hnode := congrArg Prod.snd (c.performed_observed t.ops ⟨s.node, []⟩ t.call)
    rw [(c.reconcile_eq_performed t.ops t.call s).2, asked_eq_performed, ← hnode]
    exact hend
  present_asks := by
    intro options hp
    refine forall_asked_present (P := fun x => ∀ k, x ≠ .stop k) hp ?_ ?_ ?_
    · exact fun _ _ => nofun
    · exact fun _ => nofun
    · exact fun _ _ => nofun
  absent_asks := by
    intro ha
    refine forall_asked_absent
      (P := fun x => (∀ inst, x ≠ .spawn inst) ∧ ∀ k options, x ≠ .start k options) ha ?_ ?_
    · exact fun _ _ => ⟨nofun, nofun⟩
    · exact fun _ => ⟨nofun, nofun⟩
  unlocated := by
    intro e n hl
    have hprocesses := locate_unchanged (c := c) processes hops.container hops.networkNamespace
      t.call.pod s.node
    rw [hl] at hprocesses
    rw [(c.reconcile_eq_performed t.ops t.call s).2, performed_of_error hl,
      counts_reconcile_of_error hl]
    exact ⟨asked_of_error hl, hprocesses, rfl⟩
  counted := by
    intro action ok
    cases hl : c.locate t.ops t.call.pod s.node with
    | mk located n =>
        cases located with
        | error e =>
            rw [counts_reconcile_of_error hl, RelayCounts.reconcileCount_reconciled,
              (c.reconcile_eq_performed t.ops t.call s).1, performed_of_error hl]
            rfl
        | ok inst =>
            rw [counts_reconcile_of_ok hl, RelayCounts.reconcileCount_reconciled,
              RelayCounts.reconcileCount_probed]

theorem single_afterTurns (hstart : ∀ k, (processes start.node k).count ≤ 1)
    (turns : List (RelayTurn τ)) (hops : ∀ t ∈ turns, t.ops.Lasting processes) (k : String) :
    (processes (c.afterTurns start turns).node k).count ≤ 1 := by
  induction turns generalizing k with
  | nil => exact hstart k
  | cons t earlier ih =>
      obtain ⟨ht, hearlier⟩ := List.forall_mem_cons.1 hops
      exact ((disciplined ht (ih hearlier)).solitary k).1

section Repeated

variable {t : RelayTurn τ} (hops : t.ops.Lasting processes) {s : Supervised τ}
  {inst : RelayInstance} {n : τ} (hl : c.locate t.ops t.call.pod s.node = (.ok inst, n))
  (hknown : ∀ e ∈ c.asked t.ops t.call s, ∀ k, e.call ≠ .probe k .unknown)

include hops hl hknown

/-- The probe of a call finds the relay's state, unless it learns nothing. -/
theorem found_of_known : (t.ops.probe inst.netns n).1 = (processes n inst.netns).state := by
  rcases hops.found inst.netns n with h | h
  · exact h
  · obtain ⟨e, he, hcall⟩ := mem_asked_probe hl
    rw [h] at hcall
    exact absurd hcall (hknown e he inst.netns)

/-- After a call that succeeds, the relay is as the call wants it. -/
theorem met_of_ok (hok : (c.reconcile t.ops t.call s).1 = .ok ()) :
    t.call.intent.MetBy (processes (c.reconcile t.ops t.call s).2.2.node inst.netns).state := by
  have hfound := found_of_known hops hl hknown
  rw [← hops.probe inst.netns n] at hfound
  rw [(c.reconcile_eq_performed t.ops t.call s).1, performed_of_ok hl, hfound] at hok
  rw [(c.reconcile_eq_performed t.ops t.call s).2, performed_of_ok hl, hfound]
  exact met_of_pursue_ok hops c t.call.intent inst hok

/-- Where the relay is as the call wants it, only the probe is asked for. -/
theorem asked_of_met (hmet : t.call.intent.MetBy (processes s.node inst.netns).state) :
    ∀ e ∈ c.asked t.ops t.call s, ∃ k found, e.call = .probe k found := by
  have hprocesses := locate_unchanged (c := c) processes hops.container hops.networkNamespace
    t.call.pod s.node
  rw [hl] at hprocesses
  have hfound := found_of_known hops hl hknown
  rw [← hprocesses, ← hfound] at hmet
  have hunknown : (t.ops.probe inst.netns n).1 ≠ .unknown := by
    rw [hfound]
    exact RelayProcesses.state_ne_unknown
  rw [asked_of_ok hl, pursue_of_met c _ inst hmet hunknown]
  intro e he
  rw [List.mem_singleton.1 he]
  exact ⟨_, _, rfl⟩

end Repeated

/-- Whatever was called before and failed on the way, on a node whose relay processes last: every
call keeps to the discipline. If it repeats the call before it and that succeeded, the probes of
both learned something, and the pod has not moved to another namespace, it asks for nothing but the
probe. -/
theorem relay_discipline (hstart : ∀ k, (processes start.node k).count ≤ 1) (t : RelayTurn τ)
    (earlier : List (RelayTurn τ)) (hops : ∀ t' ∈ t :: earlier, t'.ops.Lasting processes) :
    c.Disciplined processes t (c.afterTurns start earlier) ∧
      ∀ t₀ rest, earlier = t₀ :: rest → t.call = t₀.call → c.outcomeOf start t₀ rest = .ok () →
        (∀ e ∈ c.asked t₀.ops t₀.call (c.afterTurns start rest) ++
          c.asked t.ops t.call (c.afterTurns start earlier), ∀ k, e.call ≠ .probe k .unknown) →
        (∀ inst₀ inst, (c.locate t₀.ops t₀.call.pod (c.afterTurns start rest).node).1 =
          .ok inst₀ → (c.locate t.ops t.call.pod (c.afterTurns start earlier).node).1 =
            .ok inst → inst.netns = inst₀.netns) →
        ∀ e ∈ c.asked t.ops t.call (c.afterTurns start earlier),
          ∃ k found, e.call = .probe k found := by
  obtain ⟨ht, hearlier⟩ := List.forall_mem_cons.1 hops
  refine ⟨disciplined ht (single_afterTurns hstart earlier hearlier), ?_⟩
  rintro t₀ rest rfl hcall hok hknown hnamespace
  obtain ⟨hknown₀, hknown⟩ := List.forall_mem_append.1 hknown
  cases hl : c.locate t.ops t.call.pod (c.afterTurns start (t₀ :: rest)).node with
  | mk located n =>
      cases located with
      | error e => simp [asked_of_error hl]
      | ok inst =>
          cases hl₀ : c.locate t₀.ops t₀.call.pod (c.afterTurns start rest).node with
          | mk located₀ n₀ =>
              cases located₀ with
              | error e =>
                  rw [outcomeOf_eq, performed_of_error hl₀] at hok
                  cases hok
              | ok inst₀ =>
                  have hmet : t₀.call.intent.MetBy
                      (processes (c.afterTurns start (t₀ :: rest)).node inst₀.netns).state :=
                    met_of_ok (hearlier t₀ List.mem_cons_self) hl₀ hknown₀ hok
                  rw [← hnamespace inst₀ inst (by rw [hl₀]) (by rw [hl]), ← hcall] at hmet
                  exact asked_of_met ht hl hknown hmet

end RelayController

/-- A node on which every pod is in one namespace, and on which starts may be refused. -/
def processOps (refused : Bool) : NodeOps (String → RelayProcesses) where
  container := fun _ n => (.ok ⟨.containerd, "6f1c"⟩, n)
  networkNamespace := fun _ n => (.ok "/proc/7/ns/net", n)
  probe := fun k n => ((n k).state, n)
  spawn := fun inst n => (.ok (), Function.update n inst.netns (n inst.netns).spawned)
  start := fun k _ n =>
    if refused then (.error ⟨"connection refused", []⟩, n)
    else (.ok (), Function.update n k { n k with forwards := true })
  stop := fun k n => (.ok (), Function.update n k { n k with forwards := false })

theorem lasting_processOps (refused : Bool) : (processOps refused).Lasting id where
  container := fun _ _ => rfl
  networkNamespace := fun _ _ => rfl
  probe := fun _ _ => rfl
  found := fun _ _ => Or.inl rfl
  spawn_ok := fun _ _ _ => rfl
  spawn_error := nofun
  start_count := by
    intro k options n j
    cases refused with
    | true => rfl
    | false =>
        by_cases hj : j = k
        · subst hj
          simp [processOps]
        · simp [processOps, Function.update_of_ne hj]
  start_ok := by
    intro k options n hok
    cases refused with
    | true => cases hok
    | false => simp [processOps]
  stop_count := by
    intro k n j
    by_cases hj : j = k
    · subst hj
      simp [processOps]
    · simp [processOps, Function.update_of_ne hj]
  stop_ok := fun k n _ => by simp [processOps]

def processTurn (refused : Bool) (intent : Intent) : RelayTurn (String → RelayProcesses) :=
  ⟨processOps refused, ⟨⟨"blue", "shop-1"⟩, intent⟩⟩

/-- A call for a relay's presence that is served. -/
def presentTurn : RelayTurn (String → RelayProcesses) :=
  processTurn false (.present (loopbackOptions 8080))

/-- A relay is spawned that is never started, and then is left alone as it is idle. -/
def halfDone : List (RelayTurn (String → RelayProcesses)) :=
  [processTurn false .absent, processTurn true (.present (loopbackOptions 8080))]

namespace RelayController

/-- The relay is picked up by the next call for its presence, which is then repeated. -/
theorem picked_up_disciplined :
    (loopbackController.outcomeOf ⟨fun _ => {}, {}⟩
        (processTurn true (.present (loopbackOptions 8080))) []).isOk = false ∧
      loopbackController.Disciplined id presentTurn
        (loopbackController.afterTurns ⟨fun _ => {}, {}⟩ (presentTurn :: halfDone)) ∧
      ∀ e ∈ loopbackController.asked presentTurn.ops presentTurn.call
          (loopbackController.afterTurns ⟨fun _ => {}, {}⟩ (presentTurn :: halfDone)),
        ∃ k found, e.call = .probe k found := by
  have hops : ∀ t ∈ presentTurn :: presentTurn :: halfDone, t.ops.Lasting id := by
    intro t ht
    simp only [presentTurn, halfDone, List.mem_cons, List.not_mem_nil, or_false] at ht
    rcases ht with rfl | rfl | rfl | rfl <;> exact lasting_processOps _
  obtain ⟨hdisciplined, hrepeated⟩ := @relay_discipline _ id loopbackController
    ⟨fun _ => {}, {}⟩ (fun _ => Nat.zero_le 1) presentTurn (presentTurn :: halfDone) hops
  have hok : ∀ x : Except Failure Unit, x.isOk = true → x = .ok () := by
    rintro (e | u) h
    · cases h
    · rfl
  have hcalls : (loopbackController.asked presentTurn.ops presentTurn.call
        (loopbackController.afterTurns ⟨fun _ => {}, {}⟩ halfDone) ++
      loopbackController.asked presentTurn.ops presentTurn.call
        (loopbackController.afterTurns ⟨fun _ => {}, {}⟩ (presentTurn :: halfDone))).map
          NodeEvent.call =
      [.probe "/proc/7/ns/net" .idle, .start "/proc/7/ns/net" (loopbackOptions 8080),
        .probe "/proc/7/ns/net" .active] := by decide +kernel
  refine ⟨by decide +kernel, hdisciplined, ?_⟩
  refine hrepeated _ _ rfl rfl (hok _ (by decide +kernel)) (fun e he k hcall => ?_) ?_
  · have hmem := List.mem_map_of_mem (f := NodeEvent.call) he
    rw [hcalls, hcall] at hmem
    simp at hmem
  · intro inst₀ inst h₀ h
    cases h₀
    cases h
    rfl

end RelayController

end WafControl
