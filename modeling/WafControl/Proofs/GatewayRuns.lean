import WafControl.Proofs.AgentRuns
import WafControl.Proofs.GatewayTask

/-!
# How a gateway pipeline runs in time

A loop asks the store on every tick and takes the answers when they come. Whatever it does while
time passes, a task could have done in that order among others (`follows_advance`), and so what
holds for every order holds for a pipeline that follows a loop (`sound_moves`).
-/

namespace WafControl

namespace GatewayTask

variable {versions : Nat → String} {l : PollLoop} {store : Store} {g : GatewayPipeline}
  {watchers : List Watcher} {s : GatewayTask}

/-- The task is that of a loop with its store, and of the pipeline that follows it. -/
structure Mirrors (l : PollLoop) (store : Store) (g : GatewayPipeline) (watchers : List Watcher)
    (s : GatewayTask) : Prop where
  ticker : s.ticker = l.ticker
  store : s.polling.store = store
  poller : s.polling.poller = l.poller
  phase : s.polling.phase = l.phase
  pipeline : s.pipeline = g
  watchers : s.watchers = watchers

/-- The task can come to be that of a loop. -/
def Follows (versions : Nat → String) (l : PollLoop) (store : Store) (g : GatewayPipeline)
    (watchers : List Watcher) (s : GatewayTask) : Prop :=
  ∃ steps, (s.run versions steps).Mirrors l store g watchers

theorem Mirrors.follows (h : s.Mirrors l store g watchers) :
    s.Follows versions l store g watchers := ⟨[], h⟩

theorem Follows.of_run {steps : List GatewayStep}
    (h : (s.run versions steps).Follows versions l store g watchers) :
    s.Follows versions l store g watchers := by
  obtain ⟨rest, h⟩ := h
  refine ⟨steps ++ rest, ?_⟩
  rw [run, List.foldl_append]
  exact h

theorem run_answer_list (s : GatewayTask) :
    s.run versions [.answer, .list] =
      { s with
        polling := s.polling.run [.answer, .list]
        pipeline :=
          ((s.polling.step .answer).1.toList ++
            ((s.polling.step .answer).2.step .list).1.toList).foldl
              (GatewayPipeline.follow versions) s.pipeline } := by
  rw [List.foldl_append]
  rfl

theorem Mirrors.answer (h : s.Mirrors l store g watchers) (hl : l.answerAt.isSome) :
    (s.run versions [.answer, .list]).Mirrors (l.answer store).2.1 (l.answer store).2.2
      (g.follow versions (l.answer store).1) watchers := by
  have hphase : s.polling.phase = .asked := h.phase.trans (if_pos hl)
  obtain ⟨hresults, p, -, hrun⟩ := s.polling.run_answer hphase
  rw [run_answer_list, hresults, hrun, h.poller, h.store, h.pipeline]
  exact
    { ticker := h.ticker
      store := rfl
      poller := rfl
      phase := rfl
      pipeline := rfl
      watchers := h.watchers }

theorem Mirrors.ask (h : s.Mirrors l store g watchers) (hl : l.answerAt = none) {now : Nat}
    (hdue : l.ticker.deadline ≤ now) (answerAt : Nat) :
    (s.run versions [.tick now]).Mirrors
      { l with ticker := l.ticker.tick now, answerAt := some answerAt } store.askVersion g
      watchers := by
  have hphase : s.polling.phase = .idle := by
    rw [h.phase, PollLoop.phase, hl]
    rfl
  have hticker : s.ticker.due now = true := by
    rw [h.ticker]
    exact decide_eq_true hdue
  have htick : s.run versions [.tick now] =
      { s.poll versions .ask with ticker := s.ticker.tick now } := if_pos ⟨hticker, hphase⟩
  have hask : s.polling.ask =
      { s.polling with store := s.polling.store.askVersion, phase := .asked } := if_pos hphase
  rw [htick, GatewayTask.poll, PolledStore.step, hask, h.store, h.ticker]
  exact { h with ticker := rfl, store := rfl, phase := rfl }

/-- A tick asks for the token, and a store without latency answers at once. -/
theorem Mirrors.follows_tick (h : s.Mirrors l store g watchers) (hl : l.answerAt = none) {now : Nat}
    (hdue : l.ticker.deadline ≤ now) :
    s.Follows versions (l.tick store now).2.1 (l.tick store now).2.2
      ((l.tick store now).1.toList.foldl (GatewayPipeline.follow versions) g) watchers := by
  rw [PollLoop.tick]
  by_cases h0 : store.askVersion.latency = 0
  · simp only [h0, if_true]
    exact ⟨[.tick now, .answer, .list], (h.ask hl hdue now).answer rfl⟩
  · simp only [h0, if_false]
    exact ⟨_, h.ask hl hdue _⟩

theorem Mirrors.follows_fire (h : s.Mirrors l store g watchers) {now : Nat}
    (hnow : l.nextTime ≤ now) :
    s.Follows versions (l.fire store now).2.1 (l.fire store now).2.2
      ((l.fire store now).1.toList.foldl (GatewayPipeline.follow versions) g) watchers := by
  rw [PollLoop.fire]
  cases hl : l.answerAt with
  | none =>
      rw [PollLoop.nextTime, hl] at hnow
      exact h.follows_tick hl hnow
  | some t => exact ⟨_, h.answer (by rw [hl]; rfl)⟩

/-- The polls of a loop that runs for a while. -/
theorem Mirrors.follows_polls (h : s.Mirrors l store g watchers) (now till : Nat) :
    s.Follows versions (l.run store now till).2.1 (l.run store now till).2.2
      ((l.run store now till).1.foldl (fun g r => g.follow versions r.2) g) watchers := by
  refine PollLoop.run_induction
    (P := fun l store g => s.Follows versions l store g watchers)
    (fun l store g time htime hfollows => ?_) l store now till g h.follows
  obtain ⟨steps, hm⟩ := hfollows
  exact Follows.of_run (hm.follows_fire htime)

end GatewayTask

/-! ### The pipeline in time -/

/-- A pipeline that follows a store in time, and the watchers of what it publishes. -/
structure GatewayRun where
  followed : Followed := {}
  pipeline : GatewayPipeline
  watchers : List Watcher := []

/-- What happens to a pipeline from outside, and the passing of time. -/
inductive GatewayMove where
  | change (ch : StoreChange)
  | advance (ms : Nat)
  | watch (node : String)
  | see (i : Nat)

namespace GatewayRun

def move (versions : Nat → String) (interval : Nat) (r : GatewayRun) :
    GatewayMove → Except TickerFault GatewayRun
  | .change ch =>
    .ok { r with followed := { r.followed with store := r.followed.store.change ch } }
  | .advance ms =>
    (r.followed.advance .enabled interval ms).map fun (results, followed) =>
      { r with followed, pipeline := results.foldl (fun g r => g.follow versions r.2) r.pipeline }
  | .watch node =>
    let (w, cache) := r.pipeline.cache.watch node
    .ok { r with pipeline := { r.pipeline with cache }, watchers := r.watchers ++ [w] }
  | .see i => .ok { r with watchers := r.watchers.modify i fun w => w.see r.pipeline.cache }

def run (versions : Nat → String) (interval : Nat) (r : GatewayRun) (moves : List GatewayMove) :
    Except TickerFault GatewayRun :=
  moves.foldlM (move versions interval) r

/-- The task is that of the run. -/
def Mirrored (r : GatewayRun) (interval : Nat) (s : GatewayTask) : Prop :=
  ∃ l, r.followed.loopFor .enabled interval = .ok l ∧
    s.Mirrors l r.followed.store r.pipeline r.watchers

variable {versions : Nat → String} {interval : Nat} {r : GatewayRun} {s : GatewayTask}

theorem mirrored_start (node : String) (config : GatewayConfig) (h : 0 < interval) :
    Mirrored { pipeline := { applier := { node, config } } } interval
      (.start ⟨interval, 0, h⟩ {} node config) := by
  refine ⟨_, Followed.loopFor_of_pos rfl h, ?_⟩
  exact ⟨rfl, rfl, rfl, rfl, rfl, rfl⟩

/-- While time passes, the task takes some of its steps. -/
theorem follows_advance (h : r.Mirrored interval s) (ms : Nat) :
    ∃ r', r.move versions interval (.advance ms) = .ok r' ∧
      ∃ steps, r'.Mirrored interval (s.run versions steps) := by
  obtain ⟨l, hl, hm⟩ := h
  obtain ⟨steps, hpolls⟩ := hm.follows_polls r.followed.now (r.followed.now + ms)
  rw [move, Followed.advance_of_loopFor hl]
  exact ⟨_, rfl, steps, _, Followed.loopFor_of_loop rfl, hpolls⟩

theorem follows_move (h : r.Mirrored interval s) (m : GatewayMove) :
    ∃ r', r.move versions interval m = .ok r' ∧
      ∃ steps, r'.Mirrored interval (s.run versions steps) := by
  cases m with
  | change ch =>
      obtain ⟨l, hl, hm⟩ := h
      refine ⟨_, rfl, [.change ch], l, hl, { hm with store := ?_ }⟩
      exact congrArg (fun store => store.change ch) hm.store
  | advance ms => exact follows_advance h ms
  | watch node =>
      obtain ⟨l, hl, hm⟩ := h
      refine ⟨_, rfl, [.watch node], l, hl, { hm with pipeline := ?_, watchers := ?_ }⟩
      · simp only [GatewayTask.run, List.foldl_cons, List.foldl_nil, GatewayTask.step, hm.pipeline]
        rfl
      · simp only [GatewayTask.run, List.foldl_cons, List.foldl_nil, GatewayTask.step, hm.pipeline,
          hm.watchers]
        rfl
  | see i =>
      obtain ⟨l, hl, hm⟩ := h
      refine ⟨_, rfl, [.see i], l, hl, { hm with watchers := ?_ }⟩
      simp only [GatewayTask.run, List.foldl_cons, List.foldl_nil, GatewayTask.step, hm.pipeline,
        hm.watchers]

/-- Whatever happens to a pipeline, it goes on, and a task could have come to where it is by its
steps. -/
theorem follows_moves (moves : List GatewayMove) (h : r.Mirrored interval s) :
    ∃ r', r.run versions interval moves = .ok r' ∧
      ∃ steps, r'.Mirrored interval (s.run versions steps) := by
  refine exists_ok_of_foldlM (fun r m hfollowed => ?_) moves ⟨[], h⟩
  obtain ⟨steps, hm⟩ := hfollowed
  obtain ⟨next, hnext, more, hmore⟩ := follows_move hm m
  refine ⟨next, hnext, steps ++ more, ?_⟩
  rw [GatewayTask.run, List.foldl_append]
  exact hmore

/-- What holds for every order of steps holds for a pipeline in time, at every positive interval. -/
theorem sound_moves (versions : Nat → String) (node : String) (config : GatewayConfig)
    (moves : List GatewayMove) (h : 0 < interval) :
    ∃ r s, run versions interval { pipeline := { applier := { node, config } } } moves = .ok r ∧
      r.Mirrored interval s ∧ s.Sound node config 0 := by
  obtain ⟨r, hr, steps, hm⟩ := follows_moves moves (mirrored_start node config h)
  exact ⟨r, _, hr, hm, (GatewayTask.sound_start ⟨interval, 0, h⟩ {} node config).run steps⟩

end GatewayRun

end WafControl
