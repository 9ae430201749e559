import Mathlib.Data.List.TakeWhile
import WafControl.Proofs.RoutedSlices

/-!
# Runs of a router

A router takes its turns while slices arrive, their queue closes, the store changes and a shutdown
is signaled, in any order. One turn takes up a slice, asks the store about it or makes one of the
calls, so that anything may happen in between. Up to the slice at hand, what a router has done is
what routing the first of the slices one after the other does (`Follows`). Left to its turns it
comes to where `RouterQueue.drain` says, with no slice cut in half (`slices_whole`).
-/

namespace WafControl

/-! ### What happens -/

/-- A turn of the router, or what happens around it. -/
inductive RouterStep where
  | turn
  | arrive (slice : EndpointSlice)
  | close
  | signal
  | change (ch : StoreChange)
  deriving DecidableEq, Repr

namespace RouterStep

def slice? : RouterStep → Option EndpointSlice
  | arrive slice => some slice
  | turn => none
  | close => none
  | signal => none
  | change _ => none

def change? : RouterStep → Option StoreChange
  | change ch => some ch
  | turn => none
  | arrive _ => none
  | close => none
  | signal => none

/-- The slices that arrive before the queue closes. -/
def received (steps : List RouterStep) : List EndpointSlice :=
  (steps.takeWhile (· ≠ close)).filterMap slice?

theorem received_concat_of_open {steps : List RouterStep} (h : close ∉ steps) (a : RouterStep) :
    received (steps ++ [a]) = received steps ++ a.slice?.toList := by
  have hall : ∀ b ∈ steps, (decide (b ≠ close)) = true := fun b hb =>
    decide_eq_true fun heq => h (heq ▸ hb)
  have hself : steps.takeWhile (· ≠ close) = steps := List.takeWhile_eq_self_iff.2 hall
  rw [received, received, List.takeWhile_append_of_pos hall, hself, List.filterMap_append]
  cases a <;> rfl

theorem received_concat_of_closed {steps : List RouterStep} (h : close ∈ steps) (a : RouterStep) :
    received (steps ++ [a]) = received steps := by
  induction steps with
  | nil => cases h
  | cons b steps ih =>
      by_cases hb : b = close
      · simp [received, hb]
      · have h' := (List.mem_cons.1 h).resolve_left (Ne.symm hb)
        have hi := ih h'
        simp only [received, List.cons_append] at hi ⊢
        rw [List.takeWhile_cons_of_pos (by simpa using hb),
          List.takeWhile_cons_of_pos (by simpa using hb), List.filterMap_cons, List.filterMap_cons,
          hi]

end RouterStep

namespace RouterJob

def slice? : RouterJob → Option EndpointSlice
  | change _ => none
  | route slice => some slice

def change? : RouterJob → Option StoreChange
  | change ch => some ch
  | route _ => none

theorem filterMap_slice?_map_route (slices : List EndpointSlice) :
    (slices.map route).filterMap slice? = slices :=
  List.filterMap_map.trans List.filterMap_some

theorem filterMap_change?_map_route (slices : List EndpointSlice) :
    (slices.map route).filterMap change? = [] :=
  List.filterMap_map.trans (List.filterMap_eq_nil_iff.2 fun _ _ => rfl)

end RouterJob

def RouterAct.slice? : RouterAct → Option EndpointSlice
  | took slice => some slice
  | listed _ => none
  | called _ => none

namespace RouterWork

variable {σ : Type}

/-- The slices that were taken up. -/
def taken (w : RouterWork σ) : List EndpointSlice := w.made.filterMap RouterAct.slice?

theorem taken_take (slice : EndpointSlice) (w : RouterWork σ) :
    (w.take slice).taken = w.taken ++ [slice] :=
  List.filterMap_append

end RouterWork

/-! ### A router at work -/

/-- How far a router is with a slice. -/
inductive RouterPhase where
  | free
  | holding (slice : EndpointSlice)
  | calling (calls : List RelayCall)
  deriving DecidableEq, Repr

namespace RouterPhase

variable {σ : Type}

/-- The slice that is taken up and that the store was not asked about yet. -/
def slices : RouterPhase → List EndpointSlice
  | free => []
  | holding slice => [slice]
  | calling _ => []

/-- What comes of the slice at hand. -/
def finish (r : Router) (reconcile : Reconciler σ) : RouterPhase → RouterWork σ → RouterWork σ
  | free, w => w
  | holding slice, w => (r.decided slice w.store).foldl (RouterWork.call reconcile) (w.ask r slice)
  | calling cs, w => cs.foldl (RouterWork.call reconcile) w

/-- How what was done stands to the slices that the store was asked about. -/
def Stands (reconcile : Reconciler σ) (done : RouterWork σ) : RouterPhase → RouterWork σ → Prop
  | free, w => w = done
  | holding slice, w => w = done.take slice
  | calling cs, w => cs.foldl (RouterWork.call reconcile) w = done

/-- To finish the slice at hand, no slice is taken up. -/
theorem exists_rest (r : Router) (reconcile : Reconciler σ) (phase : RouterPhase)
    (w : RouterWork σ) : ∃ rest, (phase.finish r reconcile w).made = w.made ++ rest ∧
      ∀ slice, .took slice ∉ rest := by
  cases phase with
  | free => exact ⟨[], (List.append_nil _).symm, fun _ => List.not_mem_nil⟩
  | holding slice =>
      refine ⟨((r.decide? slice w.store).2.listedSince w.store).map .listed ++
        (r.decided slice w.store).map .called, ?_, by simp⟩
      rw [finish, RouterWork.foldl_call, RouterWork.ask, List.append_assoc]
  | calling cs =>
      refine ⟨cs.map .called, ?_, by simp⟩
      rw [finish, RouterWork.foldl_call]

theorem taken_finish (r : Router) (reconcile : Reconciler σ) (phase : RouterPhase)
    (w : RouterWork σ) : (phase.finish r reconcile w).taken = w.taken := by
  obtain ⟨rest, hmade, hrest⟩ := phase.exists_rest r reconcile w
  have hnone : rest.filterMap RouterAct.slice? = [] := by
    refine List.filterMap_eq_nil_iff.2 fun a ha => ?_
    cases a with
    | took slice => exact absurd ha (hrest slice)
    | listed f => rfl
    | called c => rfl
  rw [RouterWork.taken, hmade, List.filterMap_append, hnone, List.append_nil]
  rfl

variable {reconcile : Reconciler σ} {done w : RouterWork σ} {phase : RouterPhase}

/-- When the slice at hand is finished, it is routed. -/
theorem Stands.finish_eq (h : phase.Stands reconcile done w) (r : Router) :
    phase.finish r reconcile w = done.performAll r reconcile (phase.slices.map .route) := by
  cases phase with
  | free => exact h
  | holding slice =>
      cases h
      exact (done.perform_route r reconcile slice).symm
  | calling cs => exact h

theorem Stands.change (h : phase.Stands reconcile done w) (r : Router) (ch : StoreChange) :
    phase.Stands reconcile (done.perform r reconcile (.change ch))
      (w.perform r reconcile (.change ch)) := by
  cases phase with
  | free => exact congrArg (fun w => w.perform r reconcile (.change ch)) h
  | holding slice =>
      cases h
      rfl
  | calling cs =>
      cases h
      rw [Stands, RouterWork.foldl_call, RouterWork.foldl_call]
      rfl

end RouterPhase

namespace RouterWork

variable {σ : Type}

theorem taken_perform (r : Router) (reconcile : Reconciler σ) (w : RouterWork σ) (job : RouterJob) :
    (w.perform r reconcile job).taken = w.taken ++ job.slice?.toList := by
  cases job with
  | change ch => exact (List.append_nil _).symm
  | route slice =>
      have hfinish := (RouterPhase.holding slice).taken_finish r reconcile (w.take slice)
      rw [perform_route]
      exact hfinish.trans (w.taken_take slice)

theorem taken_performAll (r : Router) (reconcile : Reconciler σ) (w : RouterWork σ)
    (jobs : List RouterJob) :
    (w.performAll r reconcile jobs).taken = w.taken ++ jobs.filterMap RouterJob.slice? := by
  induction jobs generalizing w with
  | nil => exact (List.append_nil _).symm
  | cons job jobs ih =>
      rw [performAll_cons, ih, taken_perform, List.append_assoc]
      cases job <;> rfl

end RouterWork

/-- A router at work. -/
structure RouterRun (σ : Type) where
  queue : RouterQueue := {}
  phase : RouterPhase := .free
  stopped : Bool := false
  work : RouterWork σ

namespace RouterRun

variable {σ : Type}

def turn (r : Router) (reconcile : Reconciler σ) (m : RouterRun σ) : RouterRun σ :=
  match m.phase with
  | .free =>
    if m.stopped then m
    else
      match m.queue.next with
      | (.stop, queue) => { m with queue, stopped := true }
      | (.idle, queue) => { m with queue }
      | (.route slice, queue) =>
        { m with queue, phase := .holding slice, work := m.work.take slice }
  | .holding slice =>
    { m with phase := .calling (r.decided slice m.work.store), work := m.work.ask r slice }
  | .calling [] => { m with phase := .free }
  | .calling (c :: cs) => { m with phase := .calling cs, work := m.work.call reconcile c }

def step (r : Router) (reconcile : Reconciler σ) (m : RouterRun σ) : RouterStep → RouterRun σ
  | .turn => m.turn r reconcile
  | .arrive slice => { m with queue := m.queue.push slice }
  | .close => { m with queue := { m.queue with closed := true } }
  | .signal => { m with queue := { m.queue with shutdown := true } }
  | .change ch => { m with work := m.work.perform r reconcile (.change ch) }

def run (r : Router) (reconcile : Reconciler σ) (m : RouterRun σ) (steps : List RouterStep) :
    RouterRun σ :=
  steps.foldl (step r reconcile) m

theorem run_append (r : Router) (reconcile : Reconciler σ) (m : RouterRun σ)
    (steps steps' : List RouterStep) :
    m.run r reconcile (steps ++ steps') = (m.run r reconcile steps).run r reconcile steps' :=
  List.foldl_append

/-! ### Left to its turns -/

/-- The first comes to be the second by turns of the router alone. -/
def Reaches (r : Router) (reconcile : Reconciler σ) (m m' : RouterRun σ) : Prop :=
  ∃ n, m.run r reconcile (List.replicate n .turn) = m'

section Reaches

variable {r : Router} {reconcile : Reconciler σ} {m m' m'' : RouterRun σ}

theorem Reaches.refl (m : RouterRun σ) : m.Reaches r reconcile m := ⟨0, rfl⟩

theorem Reaches.of_turn (h : (m.turn r reconcile).Reaches r reconcile m') :
    m.Reaches r reconcile m' := by
  obtain ⟨n, rfl⟩ := h
  exact ⟨n + 1, rfl⟩

theorem Reaches.trans (h : m.Reaches r reconcile m') (h' : m'.Reaches r reconcile m'') :
    m.Reaches r reconcile m'' := by
  obtain ⟨n, rfl⟩ := h
  obtain ⟨k, rfl⟩ := h'
  exact ⟨n + k, by rw [List.replicate_add, run_append]⟩

end Reaches

theorem reaches_of_calling (r : Router) (reconcile : Reconciler σ) (queue : RouterQueue)
    (stopped : Bool) (cs : List RelayCall) (work : RouterWork σ) :
    Reaches r reconcile ⟨queue, .calling cs, stopped, work⟩
      ⟨queue, .free, stopped, cs.foldl (RouterWork.call reconcile) work⟩ := by
  induction cs generalizing work with
  | nil => exact .of_turn (.refl _)
  | cons c cs ih => exact .of_turn (ih (work.call reconcile c))

/-- The slice at hand is finished. -/
theorem reaches_finish (r : Router) (reconcile : Reconciler σ) (m : RouterRun σ) :
    m.Reaches r reconcile
      { m with phase := .free, work := m.phase.finish r reconcile m.work } := by
  obtain ⟨queue, phase, stopped, work⟩ := m
  cases phase with
  | free => exact .refl _
  | holding slice => exact .of_turn (reaches_of_calling r reconcile queue stopped _ _)
  | calling cs => exact reaches_of_calling r reconcile queue stopped cs work

/-- Where a router comes to that is free: it routes all that waits, unless it is to shut down. -/
def drained (r : Router) (reconcile : Reconciler σ) (queue : RouterQueue) (work : RouterWork σ) :
    RouterRun σ :=
  { queue := if queue.shutdown then queue else { queue with waiting := [] }
    stopped := queue.shutdown || queue.closed
    work := work.performAll r reconcile
      (if queue.shutdown then [] else queue.waiting.map .route) }

theorem reaches_drained (r : Router) (reconcile : Reconciler σ) (queue : RouterQueue)
    (work : RouterWork σ) :
    Reaches r reconcile { queue, work } (drained r reconcile queue work) := by
  obtain ⟨waiting, closed, shutdown⟩ := queue
  cases shutdown with
  | true => exact .of_turn (.refl _)
  | false =>
      induction waiting generalizing work with
      | nil => cases closed <;> exact .of_turn (.refl _)
      | cons slice waiting ih =>
          have hrouted : Reaches r reconcile
              (turn r reconcile { queue := ⟨slice :: waiting, closed, false⟩, work })
              { queue := ⟨waiting, closed, false⟩
                work := work.perform r reconcile (.route slice) } := by
            rw [work.perform_route]
            exact reaches_finish r reconcile
              ⟨⟨waiting, closed, false⟩, .holding slice, false, work.take slice⟩
          exact (Reaches.of_turn hrouted).trans (ih (work.perform r reconcile (.route slice)))

theorem drain_cons (r : Router) (reconcile : Reconciler σ) (slice : EndpointSlice)
    (waiting : List EndpointSlice) (closed : Bool) (work : RouterWork σ) :
    RouterQueue.drain ⟨slice :: waiting, closed, false⟩ r reconcile work.store work.node =
      RouterQueue.drain ⟨waiting, closed, false⟩ r reconcile
        (work.perform r reconcile (.route slice)).store
        (work.perform r reconcile (.route slice)).node := by
  rw [RouterQueue.drain, work.perform_route, RouterWork.foldl_call]
  simp only [RouterQueue.next, r.route_eq_decided, RouterWork.ask, RouterWork.take]
  rfl

/-- What draining the queue at one go comes to. -/
theorem drain_eq_drained (r : Router) (reconcile : Reconciler σ) (queue : RouterQueue)
    (work : RouterWork σ) : queue.drain r reconcile work.store work.node =
      (!(drained r reconcile queue work).stopped, (drained r reconcile queue work).queue,
        (drained r reconcile queue work).work.store,
        (drained r reconcile queue work).work.node) := by
  obtain ⟨waiting, closed, shutdown⟩ := queue
  cases shutdown with
  | true => rw [RouterQueue.drain]; rfl
  | false =>
      induction waiting generalizing work with
      | nil => cases closed <;> (rw [RouterQueue.drain]; rfl)
      | cons slice waiting ih =>
          rw [drain_cons]
          exact ih (work.perform r reconcile (.route slice))

/-! ### What a run has done -/

/-- What was done while the steps were taken: the jobs are done, up to the slice at hand, and the
slices that are not routed are on their way. -/
structure Follows (r : Router) (reconcile : Reconciler σ) (start : RouterWork σ)
    (steps : List RouterStep) (jobs : List RouterJob) (m : RouterRun σ) : Prop where
  changes : jobs.filterMap RouterJob.change? = steps.filterMap RouterStep.change?
  slices : jobs.filterMap RouterJob.slice? ++ m.phase.slices ++ m.queue.waiting =
    RouterStep.received steps
  closed : m.queue.closed = true ↔ .close ∈ steps
  shutdown : m.queue.shutdown = true ↔ .signal ∈ steps
  stands : m.phase.Stands reconcile (start.performAll r reconcile jobs) m.work
  ended : m.stopped = true → m.phase = .free ∧
    (m.queue.shutdown = true ∨ m.queue.closed = true ∧ m.queue.waiting = [])

namespace Follows

variable {r : Router} {reconcile : Reconciler σ} {start : RouterWork σ} {steps : List RouterStep}
  {jobs : List RouterJob} {m : RouterRun σ}

theorem begin (r : Router) (reconcile : Reconciler σ) (start : RouterWork σ) :
    Follows r reconcile start [] [] { work := start } where
  changes := rfl
  slices := rfl
  closed := by simp
  shutdown := by simp
  stands := rfl
  ended := fun h => by cases h

/-- A step adds to the jobs, to the slices and to what was signaled. -/
theorem concat {jobs' : List RouterJob} {m' : RouterRun σ} {a : RouterStep}
    (h : Follows r reconcile start steps jobs m)
    (changes : jobs'.filterMap RouterJob.change? =
      jobs.filterMap RouterJob.change? ++ a.change?.toList)
    (slices : jobs'.filterMap RouterJob.slice? ++ m'.phase.slices ++ m'.queue.waiting =
      jobs.filterMap RouterJob.slice? ++ m.phase.slices ++ m.queue.waiting ++
        if m.queue.closed then [] else a.slice?.toList)
    (closed : m'.queue.closed = (m.queue.closed || decide (a = .close)))
    (shutdown : m'.queue.shutdown = (m.queue.shutdown || decide (a = .signal)))
    (stands : m'.phase.Stands reconcile (start.performAll r reconcile jobs') m'.work)
    (ended : m'.stopped = true → m'.phase = .free ∧
      (m'.queue.shutdown = true ∨ m'.queue.closed = true ∧ m'.queue.waiting = [])) :
    Follows r reconcile start (steps ++ [a]) jobs' m' where
  changes := by
    rw [changes, h.changes, List.filterMap_append]
    cases a <;> rfl
  slices := by
    rw [slices, h.slices]
    cases hc : m.queue.closed with
    | true =>
        -- a closed queue loses what arrives
        rw [RouterStep.received_concat_of_closed (h.closed.1 hc)]
        exact List.append_nil _
    | false =>
        have hopen : RouterStep.close ∉ steps := fun hclose => by
          rw [h.closed.2 hclose] at hc
          cases hc
        exact (RouterStep.received_concat_of_open hopen a).symm
  closed := by
    rw [closed, Bool.or_eq_true, h.closed, decide_eq_true_iff, List.mem_append, List.mem_singleton,
      @eq_comm _ a]
  shutdown := by
    rw [shutdown, Bool.or_eq_true, h.shutdown, decide_eq_true_iff, List.mem_append,
      List.mem_singleton, @eq_comm _ a]
  stands := stands
  ended := ended

/-- A turn takes slices on, and leaves all else. -/
theorem concat_turn {jobs' : List RouterJob} {m' : RouterRun σ}
    (h : Follows r reconcile start steps jobs m)
    (changes : jobs'.filterMap RouterJob.change? = jobs.filterMap RouterJob.change?)
    (slices : jobs'.filterMap RouterJob.slice? ++ m'.phase.slices ++ m'.queue.waiting =
      jobs.filterMap RouterJob.slice? ++ m.phase.slices ++ m.queue.waiting)
    (closed : m'.queue.closed = m.queue.closed) (shutdown : m'.queue.shutdown = m.queue.shutdown)
    (stands : m'.phase.Stands reconcile (start.performAll r reconcile jobs') m'.work)
    (ended : m'.stopped = true → m'.phase = .free ∧
      (m'.queue.shutdown = true ∨ m'.queue.closed = true ∧ m'.queue.waiting = [])) :
    Follows r reconcile start (steps ++ [.turn]) jobs' m' := by
  refine h.concat ?_ ?_ ?_ ?_ stands ended
  · rw [changes]
    exact (List.append_nil _).symm
  · rw [slices]
    exact ((congrArg _ (ite_self _)).trans (List.append_nil _)).symm
  · rw [closed]
    exact (Bool.or_false _).symm
  · rw [shutdown]
    exact (Bool.or_false _).symm

theorem turn (h : Follows r reconcile start steps jobs m) :
    ∃ jobs', Follows r reconcile start (steps ++ [.turn]) jobs' (m.turn r reconcile) := by
  obtain ⟨⟨waiting, closed, shutdown⟩, phase, stopped, work⟩ := m
  cases phase with
  | free =>
      refine ⟨jobs, ?_⟩
      cases stopped with
      | true => exact h.concat_turn rfl rfl rfl rfl h.stands h.ended
      | false =>
          cases shutdown with
          | true => exact h.concat_turn rfl rfl rfl rfl h.stands fun _ => ⟨rfl, .inl rfl⟩
          | false =>
              cases waiting with
              | nil =>
                  cases closed with
                  | true =>
                      exact h.concat_turn rfl rfl rfl rfl h.stands fun _ => ⟨rfl, .inr ⟨rfl, rfl⟩⟩
                  | false => exact h.concat_turn rfl rfl rfl rfl h.stands h.ended
              | cons slice waiting =>
                  have hstands : work = start.performAll r reconcile jobs := h.stands
                  refine h.concat_turn rfl ?_ rfl rfl (congrArg (RouterWork.take slice) hstands)
                    fun hs => by cases hs
                  simp [RouterRun.turn, RouterQueue.next, RouterPhase.slices]
  | holding slice =>
      -- the slice is routed with the store as it is now, so its job comes after all changes
      have hstands : work = (start.performAll r reconcile jobs).take slice := h.stands
      refine ⟨jobs ++ [.route slice], h.concat_turn ?_ ?_ rfl rfl ?_ fun hs => ?_⟩
      · rw [List.filterMap_append]
        exact List.append_nil _
      · rw [List.filterMap_append]
        simp [RouterRun.turn, RouterPhase.slices, RouterJob.slice?]
      · rw [RouterWork.performAll_append]
        cases hstands
        exact ((start.performAll r reconcile jobs).perform_route r reconcile slice).symm
      · cases (h.ended hs).1
  | calling cs =>
      refine ⟨jobs, ?_⟩
      cases cs with
      | nil => exact h.concat_turn rfl rfl rfl rfl h.stands fun hs => ⟨rfl, (h.ended hs).2⟩
      | cons c cs =>
          refine h.concat_turn rfl rfl rfl rfl h.stands fun hs => ?_
          cases (h.ended hs).1

theorem step (h : Follows r reconcile start steps jobs m) (a : RouterStep) :
    ∃ jobs', Follows r reconcile start (steps ++ [a]) jobs' (m.step r reconcile a) := by
  cases a with
  | turn => exact h.turn
  | arrive slice =>
      refine ⟨jobs, h.concat ?_ ?_ ?_ ?_ h.stands ?_⟩
      · exact (List.append_nil _).symm
      · cases hc : m.queue.closed <;> simp [RouterRun.step, RouterQueue.push, hc, RouterStep.slice?]
      · cases hc : m.queue.closed <;> simp [RouterRun.step, RouterQueue.push, hc]
      · cases hc : m.queue.closed <;> simp [RouterRun.step, RouterQueue.push, hc]
      · cases hc : m.queue.closed <;>
          simpa [RouterRun.step, RouterQueue.push, hc] using h.ended
  | close =>
      refine ⟨jobs, h.concat ?_ ?_ ?_ ?_ h.stands fun hs => ?_⟩
      · exact (List.append_nil _).symm
      · simp [RouterRun.step, RouterStep.slice?]
      · simp [RouterRun.step]
      · simp [RouterRun.step]
      · exact (h.ended hs).imp_right (Or.imp_right (And.imp_left fun _ => rfl))
  | signal =>
      refine ⟨jobs, h.concat ?_ ?_ ?_ ?_ h.stands fun hs => ?_⟩
      · exact (List.append_nil _).symm
      · simp [RouterRun.step, RouterStep.slice?]
      · simp [RouterRun.step]
      · simp [RouterRun.step]
      · exact (h.ended hs).imp_right fun _ => .inl rfl
  | change ch =>
      -- calls that were decided on before do not see the change
      refine ⟨jobs ++ [.change ch], h.concat ?_ ?_ ?_ ?_ ?_ h.ended⟩
      · rw [List.filterMap_append]; rfl
      · simp [RouterRun.step, RouterStep.slice?, RouterJob.slice?, List.filterMap_append]
      · simp [RouterRun.step]
      · simp [RouterRun.step]
      · rw [RouterWork.performAll_append]
        exact h.stands.change r ch

theorem run (r : Router) (reconcile : Reconciler σ) (start : RouterWork σ)
    (steps : List RouterStep) :
    ∃ jobs, Follows r reconcile start steps jobs (run r reconcile { work := start } steps) := by
  induction steps using List.reverseRecOn with
  | nil => exact ⟨[], begin r reconcile start⟩
  | append_singleton steps a ih =>
      obtain ⟨jobs, h⟩ := ih
      rw [run_append]
      exact h.step a

end Follows

/-! ### After a shutdown was signaled -/

section Shutdown

variable (r : Router) (reconcile : Reconciler σ) {m : RouterRun σ}

theorem step_of_shutdown (h : m.queue.shutdown = true) (a : RouterStep) :
    (m.step r reconcile a).queue.shutdown = true ∧
      (m.step r reconcile a).work.taken = m.work.taken := by
  obtain ⟨⟨waiting, closed, shutdown⟩, phase, stopped, work⟩ := m
  cases h
  cases a with
  | turn =>
      cases phase with
      | free => cases stopped <;> exact ⟨rfl, rfl⟩
      | holding slice =>
          refine ⟨rfl, ?_⟩
          simp [step, turn, RouterWork.taken, RouterWork.ask, RouterAct.slice?]
      | calling cs =>
          cases cs with
          | nil => exact ⟨rfl, rfl⟩
          | cons c cs => simp [step, turn, RouterWork.taken, RouterWork.call, RouterAct.slice?]
  | arrive slice => cases closed <;> exact ⟨rfl, rfl⟩
  | close => exact ⟨rfl, rfl⟩
  | signal => exact ⟨rfl, rfl⟩
  | change ch => exact ⟨rfl, rfl⟩

theorem taken_run_of_shutdown (h : m.queue.shutdown = true) (steps : List RouterStep) :
    (m.run r reconcile steps).work.taken = m.work.taken := by
  induction steps generalizing m with
  | nil => rfl
  | cons a steps ih =>
      obtain ⟨hs, ht⟩ := step_of_shutdown r reconcile h a
      exact (ih hs).trans ht

theorem step_of_stopped (hf : m.phase = .free) (hs : m.stopped = true) (a : RouterStep) :
    (m.step r reconcile a).phase = .free ∧ (m.step r reconcile a).stopped = true ∧
      (m.step r reconcile a).work.made = m.work.made := by
  obtain ⟨queue, phase, stopped, work⟩ := m
  cases hf
  cases hs
  cases a <;> exact ⟨rfl, rfl, rfl⟩

theorem made_run_of_stopped (hf : m.phase = .free) (hs : m.stopped = true)
    (steps : List RouterStep) : (m.run r reconcile steps).work.made = m.work.made := by
  induction steps generalizing m with
  | nil => rfl
  | cons a steps ih =>
      obtain ⟨hf', hs', hm⟩ := step_of_stopped r reconcile hf hs a
      exact (ih hf' hs').trans hm

end Shutdown

/-! ### Whole slices -/

namespace Follows

variable {r : Router} {reconcile : Reconciler σ} {start : RouterWork σ} {steps : List RouterStep}
  {jobs : List RouterJob} {m : RouterRun σ}

theorem taken_eq (h : Follows r reconcile start steps jobs m) :
    m.work.taken = start.taken ++ (jobs.filterMap RouterJob.slice? ++ m.phase.slices) := by
  rw [← m.phase.taken_finish r reconcile, h.stands.finish_eq r, RouterWork.taken_performAll,
    RouterWork.taken_performAll, RouterJob.filterMap_slice?_map_route, List.append_assoc]

/-- Left to its turns, a router comes to be free. It has stopped if it was told to, and has taken up
all slices unless it is to shut down. -/
theorem exists_settled (h : Follows r reconcile start steps jobs m) (hstart : start.taken = []) :
    ∃ m', m.Reaches r reconcile m' ∧ m'.phase = .free ∧
      (m'.stopped = true ↔ .signal ∈ steps ∨ .close ∈ steps) ∧
      (.signal ∉ steps → m'.work.taken = RouterStep.received steps) ∧
      (m.phase = .free → m.stopped = false → m.queue.drain r reconcile m.work.store m.work.node =
        (!m'.stopped, m'.queue, m'.work.store, m'.work.node)) := by
  have htaken := h.taken_eq
  rw [hstart, List.nil_append] at htaken
  cases hstopped : m.stopped with
  | true =>
      obtain ⟨hfree, hended⟩ := h.ended hstopped
      refine ⟨m, .refl m, hfree, ?_, fun hs => ?_, fun _ hs => by cases hs⟩
      · rw [hstopped, ← h.shutdown, ← h.closed]
        exact iff_of_true rfl (hended.imp_right And.left)
      · obtain ⟨-, hw⟩ := hended.resolve_left (mt h.shutdown.1 hs)
        rw [htaken, ← h.slices, hw, List.append_nil]
  | false =>
      refine ⟨drained r reconcile m.queue (m.phase.finish r reconcile m.work), ?_, rfl, ?_, ?_, ?_⟩
      · have hfinish := m.reaches_finish r reconcile
        rw [hstopped] at hfinish
        exact hfinish.trans (reaches_drained r reconcile m.queue _)
      · rw [drained, Bool.or_eq_true, h.shutdown, h.closed]
      · intro hs
        have hshutdown := mt h.shutdown.1 hs
        rw [drained, if_neg hshutdown, if_neg hshutdown, RouterWork.taken_performAll,
          RouterPhase.taken_finish, htaken, RouterJob.filterMap_slice?_map_route, ← h.slices]
      · intro hfree _
        rw [hfree]
        exact drain_eq_drained r reconcile m.queue m.work

end Follows

/-- What a router has done is what routing the first slices one after the other does, up to the rest
of the slice at hand. It stops between two slices, and only if a shutdown was signaled or if it has
routed all that came before the queue closed. After a signal it takes up no slice, and once it has
stopped it does nothing. Left to its turns it finishes the slice at hand and goes on as `drain`
does: unless a shutdown was signaled it takes up all slices, whatever fails. -/
theorem slices_whole (r : Router) (reconcile : Reconciler σ) (store : Store) (s : σ)
    (steps : List RouterStep) :
    let m := run r reconcile { work := { store, node := s } } steps
    let after := RouterWork.performAll r reconcile { store, node := s }
    (∃ jobs rest, jobs.filterMap RouterJob.change? = steps.filterMap RouterStep.change? ∧
        jobs.filterMap RouterJob.slice? <+: RouterStep.received steps ∧
        (after jobs).made = m.work.made ++ rest ∧ (∀ slice, .took slice ∉ rest) ∧
        (m.phase = .free → m.work = after jobs) ∧
        (m.stopped = true → m.phase = .free ∧ (.signal ∈ steps ∨
          .close ∈ steps ∧ jobs.filterMap RouterJob.slice? = RouterStep.received steps))) ∧
      (.signal ∈ steps → ∀ more, (m.run r reconcile more).work.taken = m.work.taken) ∧
      (m.stopped = true → ∀ more, (m.run r reconcile more).work.made = m.work.made) ∧
      ∃ n, let m' := m.run r reconcile (List.replicate n .turn)
        m'.phase = .free ∧ (m'.stopped = true ↔ .signal ∈ steps ∨ .close ∈ steps) ∧
          (.signal ∉ steps → m'.work.taken = RouterStep.received steps) ∧
          (m.phase = .free → m.stopped = false →
            m.queue.drain r reconcile m.work.store m.work.node =
              (!m'.stopped, m'.queue, m'.work.store, m'.work.node)) := by
  intro m after
  obtain ⟨jobs, h⟩ := Follows.run r reconcile ⟨store, s, []⟩ steps
  have hfinish : m.phase.finish r reconcile m.work =
      after (jobs ++ m.phase.slices.map .route) := by
    rw [h.stands.finish_eq r, ← RouterWork.performAll_append]
  refine ⟨?_, fun hs => ?_, fun hs => ?_, ?_⟩
  · obtain ⟨rest, hrest, htook⟩ := m.phase.exists_rest r reconcile m.work
    rw [hfinish] at hrest
    have hslices : (jobs ++ m.phase.slices.map RouterJob.route).filterMap RouterJob.slice? =
        jobs.filterMap RouterJob.slice? ++ m.phase.slices := by
      rw [List.filterMap_append, RouterJob.filterMap_slice?_map_route]
    refine ⟨jobs ++ m.phase.slices.map .route, rest, ?_, ?_, hrest, htook, fun hf => ?_,
      fun hs => ?_⟩
    · rw [List.filterMap_append, h.changes, RouterJob.filterMap_change?_map_route, List.append_nil]
    · rw [hslices, ← h.slices]
      exact List.prefix_append _ _
    · rw [← hfinish, hf]
      rfl
    · obtain ⟨hf, hended⟩ := h.ended hs
      refine ⟨hf, hended.imp h.shutdown.1 fun hw => ⟨h.closed.1 hw.1, ?_⟩⟩
      rw [hslices, ← h.slices, hw.2, List.append_nil]
  · exact taken_run_of_shutdown r reconcile (h.shutdown.2 hs)
  · exact made_run_of_stopped r reconcile (h.ended hs).1 hs
  · obtain ⟨m', ⟨n, rfl⟩, hm'⟩ := h.exists_settled rfl
    exact ⟨n, hm'⟩

/-- A slice whose listing fails is followed by one of two pods, all of whose calls fail. The signal
comes between these calls, and the second is made before the router stops. -/
theorem signal_between_calls :
    let store : Store :=
      { protections := [Protection.guarding "shop" "shop.blue.svc" 31000]
        listError := some "down" }
    let failing : Reconciler Nat := fun _ n => (.error ⟨"down", []⟩, n + 1)
    let options : RelayOptions := ⟨"gateway.waf.svc", 31000, 8080, 50010⟩
    let steps : List RouterStep :=
      [ .arrive Router.sampleSlice, .turn, .turn, .turn, .change { listError := some none },
        .arrive Router.mixedSlice, .arrive Router.sampleSlice, .turn, .turn, .turn, .signal,
        .turn, .turn, .turn ]
    let m := run Router.sampleRouter failing { work := { store, node := 0 } } steps
    m.stopped = true ∧
      m.work.made =
        [ .took Router.sampleSlice, .listed (.upstream "shop.blue.svc"),
          .took Router.mixedSlice, .listed (.upstream "shop.blue.svc"),
          .called ⟨⟨"red", "shop-1"⟩, .present options⟩,
          .called ⟨⟨"blue", "shop-2"⟩, .present options⟩ ] ∧
      ∀ more, (m.run Router.sampleRouter failing more).work.made = m.work.made := by
  intro store failing options steps m
  have hstopped : m.stopped = true := by decide
  obtain ⟨-, -, hmade, -⟩ := slices_whole Router.sampleRouter failing store 0 steps
  refine ⟨hstopped, by decide, fun more => ?_⟩
  simpa only [m] using hmade hstopped more

end RouterRun

end WafControl
