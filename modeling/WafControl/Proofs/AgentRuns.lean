import WafControl.Proofs.TogglesRouted

/-!
# How an agent runs in time

An agent lets its parts take their steps in an order that follows from the time. Whatever it does
while time passes, its parts could have done in that order among others (`follows_advance`), and so
what holds for every order holds for the agent (`sound_moves`).
-/

namespace WafControl

/-- How far the poll of a loop has come. -/
def PollLoop.phase (l : PollLoop) : PollPhase := if l.answerAt.isSome then .asked else .idle

namespace AgentParts

variable {σ : Type}

/-- The parts can come from one state to another. -/
def Reaches (r : Router) (c : RelayController) (ops : NodeOps σ) (s s' : AgentParts σ) : Prop :=
  ∃ steps, s.run r c ops steps = s'

variable {r : Router} {c : RelayController} {ops : NodeOps σ} {s s' s'' : AgentParts σ}

theorem Reaches.refl (s : AgentParts σ) : Reaches r c ops s s := ⟨[], rfl⟩

theorem Reaches.trans (h : Reaches r c ops s s') (h' : Reaches r c ops s' s'') :
    Reaches r c ops s s'' := by
  obtain ⟨steps, rfl⟩ := h
  obtain ⟨steps', rfl⟩ := h'
  exact ⟨steps ++ steps', List.foldl_append⟩

theorem reaches_step (s : AgentParts σ) (a : AgentStep σ) :
    Reaches r c ops s (s.step r c ops a) := ⟨[a], rfl⟩

/-! ### The poller -/

/-- The parts with the poller of a loop, after polls that left a store and announced hosts. -/
def polled (s : AgentParts σ) (l : PollLoop) (store : Store) (hosts : HostSignal) :
    AgentParts σ :=
  { s with store, poller := l.poller, poll := l.phase, hosts }

theorem reaches_answer (s : AgentParts σ) {l : PollLoop} (h : l.answerAt.isSome) (store : Store)
    (hosts : HostSignal) :
    Reaches r c ops (s.polled l store hosts)
      (s.polled (l.answer store).2.1 (l.answer store).2.2
        (hosts.follow (l.answer store).1)) := by
  refine ⟨[.answer, .list], ?_⟩
  have hphase : (s.polled l store hosts).poll = .asked := if_pos h
  simp only [run, List.foldl_cons, List.foldl_nil, step]
  rw [answer, if_pos hphase]
  have hstore : (s.polled l store hosts).store = store := rfl
  have hpoller : (s.polled l store hosts).poller = l.poller := rfl
  rw [hstore, hpoller, PollLoop.answer]
  cases hv : store.answerVersion with
  | error e => rfl
  | ok token =>
      simp only [Poller.afterVersion]
      cases hm : l.poller.moved token with
      | false => rfl
      | true =>
          simp only [if_true, list]
          cases hl : store.answerList l.poller.filter with
          | error e =>
              simp [Store.list, hl, Poller.listed, polled, HostSignal.follow, PollLoop.phase]
          | ok ps =>
              simp [Store.list, hl, Poller.listed, polled, HostSignal.follow, PollLoop.phase]

/-- A tick asks for the token, and a store without latency answers at once. -/
theorem reaches_tick (s : AgentParts σ) {l : PollLoop} (h : l.answerAt = none) (store : Store)
    (hosts : HostSignal) (now : Nat) :
    Reaches r c ops (s.polled l store hosts)
      (s.polled (l.tick store now).2.1 (l.tick store now).2.2
        ((l.tick store now).1.toList.foldl HostSignal.follow hosts)) := by
  -- the poll as it is while the token is being read
  let asked : PollLoop := { l with ticker := l.ticker.tick now, answerAt := some now }
  have hphase : (s.polled l store hosts).poll = .idle := by
    rw [polled, PollLoop.phase, h]
    rfl
  have hask : Reaches r c ops (s.polled l store hosts)
      (s.polled asked store.askVersion hosts) := by
    refine ⟨[.ask], ?_⟩
    simp only [run, List.foldl_cons, List.foldl_nil, step]
    rw [ask, if_pos hphase]
    rfl
  rw [PollLoop.tick]
  by_cases h0 : store.askVersion.latency = 0
  · simp only [h0, if_true]
    exact hask.trans (reaches_answer s rfl store.askVersion hosts)
  · simp only [h0, if_false]
    exact hask

theorem reaches_fire (s : AgentParts σ) (l : PollLoop) (store : Store) (hosts : HostSignal)
    (now : Nat) :
    Reaches r c ops (s.polled l store hosts)
      (s.polled (l.fire store now).2.1 (l.fire store now).2.2
        ((l.fire store now).1.toList.foldl HostSignal.follow hosts)) := by
  rw [PollLoop.fire]
  cases h : l.answerAt with
  | none => exact reaches_tick s h store hosts now
  | some t => exact reaches_answer s (by rw [h]; rfl) store hosts

/-- The polls of a loop that runs for a while. -/
theorem reaches_polls (s : AgentParts σ) (l : PollLoop) (store : Store) (hosts : HostSignal)
    (now till : Nat) :
    Reaches r c ops (s.polled l store hosts)
      (s.polled (l.run store now till).2.1 (l.run store now till).2.2
        ((l.run store now till).1.foldl (fun hosts r => hosts.follow r.2) hosts)) := by
  refine PollLoop.run_induction
    (P := fun l' store' hosts' =>
      Reaches r c ops (s.polled l store hosts) (s.polled l' store' hosts'))
    (fun l' store' hosts' time _ h => ?_) l store now till hosts (Reaches.refl _)
  exact h.trans (reaches_fire s l' store' hosts' time)

/-! ### The informer -/

/-- The parts with the informer of a loop, and with slices in the queue. -/
def informed (s : AgentParts σ) (l : InformerLoop) (queue : Mailbox EndpointSlice) :
    AgentParts σ :=
  { s with informer := l.informer, hostsSeen := l.hostsSeen, unsent := l.unsent, queue }

/-- To offer items is to offer one after the other. -/
theorem offer_cons {α : Type} {m : Mailbox α} (h : 0 < m.room) (x : α) (xs : List α) :
    m.offer (x :: xs) = (m.offer [x]).1.offer xs := by
  obtain ⟨n, hn⟩ := Nat.exists_eq_succ_of_ne_zero (Nat.ne_of_gt h)
  have hone : (m.offer [x]).1 = { m with items := m.items ++ [x] } := by
    rw [Mailbox.offer, List.take_of_length_le h]
  have hroom : ({ m with items := m.items ++ [x] } : Mailbox α).room = n := by
    simp only [Mailbox.room, List.length_append, List.length_singleton] at hn ⊢
    omega
  rw [hone, Mailbox.offer, Mailbox.offer, hroom, hn]
  simp

/-- Slices are sent one by one as long as there is room. -/
theorem reaches_offer (s : AgentParts σ) (queue : Mailbox EndpointSlice)
    (unsent : List EndpointSlice) :
    Reaches r c ops { s with queue, unsent }
      { s with queue := (queue.offer unsent).1, unsent := (queue.offer unsent).2 } := by
  induction unsent generalizing queue with
  | nil =>
      refine ⟨[], ?_⟩
      simp [run, Mailbox.offer]
  | cons x xs ih =>
      by_cases hroom : 0 < queue.room
      · have hsend : Reaches r c ops { s with queue, unsent := x :: xs }
            { s with queue := (queue.offer [x]).1, unsent := xs } := by
          refine ⟨[.send], ?_⟩
          simp only [run, List.foldl_cons, List.foldl_nil, step, send, hroom, if_true]
        rw [offer_cons hroom]
        exact hsend.trans (ih _)
      · have hfull : queue.room = 0 := Nat.eq_zero_of_not_pos hroom
        refine ⟨[], ?_⟩
        simp [run, Mailbox.offer, hfull]

theorem reaches_sent (s : AgentParts σ) (l : InformerLoop) (queue : Mailbox EndpointSlice) :
    Reaches r c ops (s.informed l queue)
      (s.informed { l with unsent := (queue.offer l.unsent).2 } (queue.offer l.unsent).1) :=
  reaches_offer (s.informed l queue) queue l.unsent

/-- What a loop takes up, its parts can take up. -/
theorem reaches_loopStep (s : AgentParts σ) {l l' : InformerLoop}
    (queue : Mailbox EndpointSlice) {now : Nat} {feed : HostFeed} (hf : s.hosts = feed.hosts)
    {slices : List EndpointSlice} (hs : l.step now feed = (some slices, l')) :
    Reaches r c ops (s.informed { l with unsent := [] } queue)
      (s.informed { l' with unsent := slices } queue) := by
  have hready : (s.informed { l with unsent := [] } queue).unsent = [] := rfl
  simp only [InformerLoop.step] at hs
  split at hs
  · rename_i e he
    cases hs
    refine ⟨[.event e], ?_⟩
    simp only [run, List.foldl_cons, List.foldl_nil, step, event, if_pos hready]
    rfl
  · split at hs
    · cases hs
      refine ⟨[.resync l.informer.replayAll], ?_⟩
      simp only [run, List.foldl_cons, List.foldl_nil, step]
      rw [resync, if_pos ⟨hready, List.Perm.refl _⟩]
      rfl
    · split at hs
      · rename_i hchanged
        cases hs
        refine ⟨[.heed (l.informer.replayHosts feed.hosts.latest)], ?_⟩
        simp only [run, List.foldl_cons, List.foldl_nil, step]
        have hheed : s.hosts.changedSince l.hostsSeen := by
          rw [hf]
          exact (Bool.and_eq_true_iff.1 hchanged).2
        have hperm : (l.informer.replayHosts feed.hosts.latest).Perm
            (l.informer.replayHosts s.hosts.latest) := by
          rw [hf]
        rw [heed, if_pos ⟨hready, hheed, hperm⟩]
        simp only [informed, forward, hf]
      · split at hs
        · cases hs
          refine ⟨[], ?_⟩
          simp only [run, List.foldl_nil, informed]
        · cases hs

theorem informed_of_step_none (s : AgentParts σ) {l l' : InformerLoop} {now : Nat}
    {feed : HostFeed} (hs : l.step now feed = (none, l')) (unsent : List EndpointSlice)
    (queue : Mailbox EndpointSlice) :
    s.informed { l' with unsent } queue = s.informed { l with unsent } queue := by
  have hl := l.step_none now feed (by rw [hs])
  rw [hs] at hl
  simp only at hl
  rw [hl]
  rfl

/-- Whatever a loop takes up and sends at one moment, its parts can. -/
theorem reaches_settle (s : AgentParts σ) (l : InformerLoop) (now : Nat) {feed : HostFeed}
    (hf : s.hosts = feed.hosts) (queue : Mailbox EndpointSlice) :
    ∃ l', Reaches r c ops (s.informed l queue) (s.informed l' (l.settle now feed queue).1) ∧
      ∀ l₁, (l.settle now feed queue).2 = some l₁ → l' = l₁ := by
  fun_induction InformerLoop.settle l now feed queue with
  | case1 l queue h => exact ⟨l, Reaches.refl _, fun _ h => by cases h⟩
  | case2 l queue h offered hne =>
      refine ⟨{ l with unsent := offered.2 }, reaches_sent s l queue, fun l₁ h => ?_⟩
      cases h
      rfl
  | case3 l queue h offered hne l' hs =>
      have hnone : offered.2 = [] := Decidable.not_not.1 hne
      refine ⟨{ l' with unsent := [] }, ?_, fun l₁ h => Option.some.inj h⟩
      rw [informed_of_step_none s hs, ← hnone]
      exact reaches_sent s l queue
  | case4 l queue h offered hne slices l' hs ih =>
      have hnone : offered.2 = [] := Decidable.not_not.1 hne
      have hsent : Reaches r c ops (s.informed l queue)
          (s.informed { l with unsent := offered.2 } offered.1) := reaches_sent s l queue
      rw [hnone] at hsent
      obtain ⟨l₁, hreach, heq⟩ := ih
      exact ⟨l₁, (hsent.trans (reaches_loopStep s offered.1 hf hs)).trans hreach, heq⟩

/-! ### The router -/

/-- What the router is at while an agent pauses. -/
def RouterHand.ofPause : Option RouterPause → RouterHand
  | none => .idle
  | some p => .waiting p.start p.calls

/-- The parts are those of an agent. -/
structure Mirrors (r : Router) (c : RelayController) (tokens : List String) (a : Agent)
    (s : AgentParts ScriptedNode) : Prop where
  tokens : s.tokens = tokens
  router : a.router = r
  controller : a.controller = c
  store : s.store = a.store
  poller : ∀ l, a.polling = .ok l → s.poller = l.poller ∧ s.poll = l.phase
  hosts : s.hosts = a.feed.hosts
  informer : ∀ l, a.informer = some l →
    s.informer = l.informer ∧ s.hostsSeen = l.hostsSeen ∧ s.unsent = l.unsent
  queue : s.queue = a.queue
  hand : s.hand = RouterHand.ofPause a.pause
  node : s.node = a.node

/-- The parts can come to be those of an agent. -/
def Follows (r : Router) (c : RelayController) (tokens : List String)
    (s : AgentParts ScriptedNode) (a : Agent) : Prop :=
  ∃ s', Reaches r c ScriptedNode.ops s s' ∧ Mirrors r c tokens a s'

variable {tokens : List String} {s s' : AgentParts ScriptedNode} {a : Agent}

theorem Follows.of_reaches (h : Reaches r c ScriptedNode.ops s s') (hf : Follows r c tokens s' a) :
    Follows r c tokens s a := by
  obtain ⟨s'', hs, hm⟩ := hf
  exact ⟨s'', h.trans hs, hm⟩

theorem Mirrors.follows (h : Mirrors r c tokens a s) : Follows r c tokens s a :=
  ⟨s, Reaches.refl s, h⟩

/-- The calls for a slice that are made until one has to wait. -/
theorem follows_proceed (calls : List RelayCall) (hs : s.hand = .calling calls)
    (hp : a.pause = none) (h : Mirrors r c tokens a { s with hand := .idle }) :
    Follows r c tokens s (a.proceed calls) := by
  induction calls generalizing s a with
  | nil =>
      refine Follows.of_reaches (reaches_step s .begin) ?_
      rw [step, begin, hs]
      exact h.follows
  | cons call calls ih =>
      refine Follows.of_reaches (reaches_step s .begin) ?_
      have hb : c.begin ScriptedNode.ops call s.node =
          a.controller.begin ScriptedNode.ops call a.node := by
        rw [h.controller, ← h.node]
      simp only [step, begin, hs, hb, Agent.proceed]
      cases a.controller.begin ScriptedNode.ops call a.node with
      | mk progress node =>
          cases progress with
          | finished outcome => exact ih rfl hp { h with node := rfl }
          | waiting d start => exact Mirrors.follows { h with hand := rfl, node := rfl }

/-- The agent goes on after a pause. -/
theorem follows_resume (h : Mirrors r c tokens a s) : Follows r c tokens s a.resume := by
  rw [Agent.resume]
  cases hp : a.pause with
  | none => exact h.follows
  | some p =>
      simp only
      split
      · have hs : s.hand = .waiting p.start p.calls := by
          rw [h.hand, hp]
          rfl
        have hb : c.resume ScriptedNode.ops p.start s.node =
            a.controller.resume ScriptedNode.ops p.start a.node := by
          rw [h.controller, ← h.node]
        refine Follows.of_reaches (reaches_step s .resume) ?_
        simp only [step, resume, hs, hb]
        cases a.controller.resume ScriptedNode.ops p.start a.node with
        | mk progress node =>
            cases progress with
            | finished outcome =>
                exact follows_proceed p.calls rfl rfl { h with hand := rfl, node := rfl }
            | waiting d start => exact Mirrors.follows { h with hand := rfl, node := rfl }
      · exact h.follows

/-- Making calls does not look at the queue. -/
theorem proceed_queue (a : Agent) (queue : Mailbox EndpointSlice) (calls : List RelayCall) :
    Agent.proceed { a with queue } calls = { a.proceed calls with queue } := by
  induction calls generalizing a with
  | nil => rfl
  | cons call calls ih =>
      simp only [Agent.proceed]
      cases a.controller.begin ScriptedNode.ops call a.node with
      | mk progress node =>
          cases progress with
          | finished outcome => exact ih { a with node }
          | waiting d start => rfl

theorem queue_proceed (a : Agent) (calls : List RelayCall) :
    (a.proceed calls).queue = a.queue := by
  have h := congrArg Agent.queue (proceed_queue a a.queue calls)
  exact h

/-- Routing changes neither the informer nor what is announced to it. -/
theorem informer_proceed (a : Agent) (calls : List RelayCall) :
    (a.proceed calls).informer = a.informer ∧ (a.proceed calls).feed = a.feed := by
  induction calls generalizing a with
  | nil => exact ⟨rfl, rfl⟩
  | cons call calls ih =>
      simp only [Agent.proceed]
      cases a.controller.begin ScriptedNode.ops call a.node with
      | mk progress node =>
          cases progress with
          | finished outcome => exact ih { a with node }
          | waiting d start => exact ⟨rfl, rfl⟩

/-- A slice is routed by making the calls decided on, if the store answers. -/
theorem routeAll_cons {slice : EndpointSlice} (rest : List EndpointSlice) (h : a.pause = none) :
    a.routeAll (slice :: rest) =
      (Agent.proceed { a with store := (a.router.decide? slice a.store).2 }
        (a.router.routing slice a.store).calls).routeAll rest := by
  simp only [Agent.routeAll, h, Router.routing]
  cases a.router.decide? slice a.store with
  | mk answer store =>
      cases answer with
      | error e => rfl
      | ok calls => rfl

theorem informer_routeAll (a : Agent) (slices : List EndpointSlice) :
    (a.routeAll slices).informer = a.informer ∧ (a.routeAll slices).feed = a.feed := by
  induction slices generalizing a with
  | nil => exact ⟨rfl, rfl⟩
  | cons slice rest ih =>
      cases hp : a.pause with
      | some p =>
          simp only [Agent.routeAll, hp, and_self]
      | none =>
          rw [routeAll_cons rest hp, (ih _).1, (ih _).2]
          exact informer_proceed _ _

/-- An agent that has routed the next slice of its queue. -/
def routedNext (a : Agent) (slice : EndpointSlice) (rest : List EndpointSlice) : Agent :=
  { Agent.proceed { a with store := (a.router.decide? slice a.store).2 }
      (a.router.routing slice a.store).calls with
    queue := { a.queue with items := rest } }

/-- The router takes a slice, asks the store and makes the calls it decides on. -/
theorem follows_routedNext {slice : EndpointSlice} {rest : List EndpointSlice}
    (hp : a.pause = none)
    (h : Mirrors r c tokens { a with queue := { a.queue with items := slice :: rest } } s) :
    Follows r c tokens s (routedNext a slice rest) := by
  have hhand : s.hand = .idle := by
    have := h.hand
    rwa [hp] at this
  have hitems : s.queue.items = slice :: rest := by rw [h.queue]
  have hrouting : r.routing slice s.store = a.router.routing slice a.store := by
    rw [← h.router, h.store]
  have hdecided : r.decide? slice s.store = a.router.decide? slice a.store := by
    rw [← h.router, h.store]
  refine Follows.of_reaches ((reaches_step s .take).trans (reaches_step _ .route)) ?_
  simp only [step, take, hhand, hitems, route, hrouting, hdecided]
  -- the agent shortens its queue after the calls, its parts before them
  rw [routedNext, ← proceed_queue]
  refine follows_proceed _ rfl hp { h with store := rfl, queue := ?_, hand := ?_ }
  · simp only [h.queue]
  · simp only [hp]
    rfl

/-- The slices that are waiting, until one has to wait for its relays. -/
theorem follows_routeAll (slices : List EndpointSlice)
    (h : Mirrors r c tokens { a with queue := { a.queue with items := slices } } s) :
    Follows r c tokens s (a.routeAll slices) := by
  induction slices generalizing s a with
  | nil => exact h.follows
  | cons slice rest ih =>
      cases hp : a.pause with
      | some p =>
          simp only [Agent.routeAll, hp]
          rw [hp] at h
          exact h.follows
      | none =>
          obtain ⟨s', hreach, hm⟩ := follows_routedNext hp h
          rw [routeAll_cons rest hp]
          refine Follows.of_reaches hreach (ih ?_)
          rw [queue_proceed]
          exact hm

theorem follows_route (h : Mirrors r c tokens a s) : Follows r c tokens s a.route :=
  follows_routeAll a.queue.items h

/-! ### The whole agent -/

theorem follows_poll (h : Mirrors r c tokens a s) : Follows r c tokens s a.poll := by
  rw [Agent.poll]
  cases hl : a.polling with
  | error fault => exact h.follows
  | ok l =>
      obtain ⟨hpoller, hphase⟩ := h.poller l hl
      have hstart : s.polled l a.store a.feed.hosts = s := by
        rw [polled, ← h.store, ← h.hosts, ← hpoller, ← hphase]
      have hreach : Reaches r c ScriptedNode.ops _ _ :=
        reaches_polls s l a.store a.feed.hosts a.now (a.now + 1)
      rw [hstart] at hreach
      refine Follows.of_reaches hreach (Mirrors.follows ?_)
      refine { h with store := rfl, poller := fun l' hl' => ?_, hosts := rfl }
      cases hl'
      exact ⟨rfl, rfl⟩

/-- What an informer takes up and sends at one moment. -/
theorem follows_settled {now : Nat} {feed : HostFeed} {l : InformerLoop} (hf : a.feed = feed)
    (h : Mirrors r c tokens { a with informer := some l } s) {queue : Mailbox EndpointSlice}
    {informer : Option InformerLoop} (hs : l.settle now feed a.queue = (queue, informer)) :
    Follows r c tokens s { a with queue, informer } := by
  have hhosts : s.hosts = feed.hosts := hf ▸ h.hosts
  obtain ⟨hinformer, hseen, hunsent⟩ := h.informer l rfl
  have hqueue : s.queue = a.queue := h.queue
  have hstart : s.informed l a.queue = s := by
    rw [informed, ← hinformer, ← hseen, ← hunsent, ← hqueue]
  obtain ⟨l', hreach, heq⟩ := reaches_settle s l now hhosts a.queue
  rw [hs] at hreach heq
  rw [hstart] at hreach
  refine Follows.of_reaches hreach (Mirrors.follows { h with queue := rfl, informer := ?_ })
  intro l₁ h₁
  rw [← heq l₁ h₁]
  exact ⟨rfl, rfl, rfl⟩

/-- An informer and the router take turns. -/
theorem follows_relay (now : Nat) (feed : HostFeed) (l : InformerLoop) (a : Agent)
    (hf : a.feed = feed) (h : Mirrors r c tokens { a with informer := some l } s) :
    Follows r c tokens s (Agent.relay now feed l a) := by
  fun_induction Agent.relay now feed l a generalizing s with
  | case1 l a queue hs =>
      obtain ⟨s', hreach, hm⟩ := follows_settled hf h hs
      exact Follows.of_reaches hreach (follows_route hm)
  | case2 l a queue l' hs b hmore =>
      rename_i ih
      obtain ⟨s', hreach, hm⟩ := follows_settled hf h hs
      obtain ⟨s'', hreach', hm'⟩ := follows_route hm
      obtain ⟨hinformer, hfeed⟩ :=
        informer_routeAll { a with queue, informer := some l' } queue.items
      refine Follows.of_reaches (hreach.trans hreach') (ih (hfeed.trans hf) ?_)
      exact { hm' with informer := fun l₁ h₁ => hm'.informer l₁ (hinformer.trans h₁) }
  | case3 l a queue l' hs b =>
      obtain ⟨s', hreach, hm⟩ := follows_settled hf h hs
      exact Follows.of_reaches hreach (follows_route hm)

theorem follows_settle (h : Mirrors r c tokens a s) : Follows r c tokens s a.settle := by
  obtain ⟨s₁, hpoll, h₁⟩ := follows_poll h
  obtain ⟨s₂, hresume, h₂⟩ := follows_resume h₁
  obtain ⟨s₃, hroute, h₃⟩ := follows_route h₂
  refine Follows.of_reaches (hpoll.trans (hresume.trans hroute)) ?_
  rw [Agent.settle]
  cases hl : a.poll.resume.route.informer with
  | none =>
      simp only
      exact h₃.follows
  | some l =>
      simp only
      refine follows_relay _ _ l _ rfl { h₃ with informer := fun l₁ h₁ => ?_ }
      exact h₃.informer l₁ (hl.trans h₁)

/-- While time passes, the parts of an agent take some of their steps. -/
theorem follows_advance (h : Mirrors r c tokens a s) (ms : Nat) :
    Follows r c tokens s (a.advance ms) := by
  rw [Agent.advance]
  generalize a.now + ms = till
  fun_induction Agent.runTill a till generalizing s with
  | case1 a hlt b next =>
      rename_i ih
      obtain ⟨s', hreach, hm⟩ := follows_settle h
      exact Follows.of_reaches hreach (ih { hm with })
  | case2 a hlt => exact h.follows

theorem mirrors_start (router : Router) (interval : Nat) :
    Mirrors router { nodeName := router.nodeName } [""] (Agent.start router interval)
      (start {} Agent.queueSize ⟨{}, {}⟩) where
  tokens := rfl
  router := rfl
  controller := rfl
  store := rfl
  poller := by
    intro l hl
    obtain ⟨ticker, rfl⟩ := PollLoop.exists_ticker_of_start hl
    exact ⟨rfl, rfl⟩
  hosts := rfl
  informer := by
    intro l hl
    cases hl
    exact ⟨rfl, rfl, rfl⟩
  queue := rfl
  hand := rfl
  node := rfl

end AgentParts

/-- What happens to an agent from outside, and the passing of time. -/
inductive AgentMove where
  | change (token : String) (ps : List Protection)
  | upset (ch : StoreChange)
  | disturb (ch : NodeChange)
  | yield (items : List (StreamItem EndpointSlice))
  | advance (ms : Nat)

namespace AgentMove

/-- The token that the store gets. -/
def token? : AgentMove → Option String
  | change token _ => some token
  | upset _ => none
  | disturb _ => none
  | yield _ => none
  | advance _ => none

end AgentMove

def Agent.move (a : Agent) : AgentMove → Agent
  | .change token ps =>
    { a with store := a.store.change { version := some token, protections := some ps } }
  | .upset ch =>
    { a with store := a.store.change { ch with version := none, protections := none } }
  | .disturb ch => { a with node := { a.node with node := a.node.node.change ch } }
  | .yield items => a.yield items
  | .advance ms => a.advance ms

namespace AgentParts

variable {r : Router} {c : RelayController} {tokens : List String}
variable {s : AgentParts ScriptedNode} {a : Agent}

theorem follows_move (h : Mirrors r c tokens a s) (m : AgentMove)
    (hm : ∀ token, m.token? = some token → token ∉ tokens) :
    Follows r c (m.token?.toList ++ tokens) s (a.move m) := by
  cases m with
  | change token ps =>
      have hnew : token ∉ s.tokens := by
        rw [h.tokens]
        exact hm token rfl
      refine Follows.of_reaches (reaches_step s (.change token ps)) ?_
      rw [step, change, if_neg hnew, h.tokens, h.store]
      exact Mirrors.follows { h with tokens := rfl, store := rfl }
  | upset ch =>
      refine Follows.of_reaches (reaches_step s (.upset ch)) ?_
      rw [step, upset, h.store]
      exact Mirrors.follows { h with store := rfl }
  | disturb ch =>
      refine Follows.of_reaches
        (reaches_step s (.disturb { a.node with node := a.node.node.change ch })) ?_
      exact Mirrors.follows { h with node := rfl }
  | yield items =>
      refine Mirrors.follows { h with informer := fun l hl => ?_ }
      obtain ⟨l', hl', rfl⟩ := Option.map_eq_some_iff.1 hl
      exact h.informer l' hl'
  | advance ms => exact follows_advance h ms

/-- Whatever happens to an agent, its parts could have come to where they are by steps of their own,
if every change gives the store a new token. -/
theorem follows_moves (moves : List AgentMove) (h : Mirrors r c tokens a s)
    (hnew : Fresh tokens (moves.filterMap AgentMove.token?)) :
    ∃ used, Follows r c used s (moves.foldl Agent.move a) := by
  induction moves generalizing s a tokens with
  | nil => exact ⟨tokens, h.follows⟩
  | cons m moves ih =>
      have hstep : (∀ token, m.token? = some token → token ∉ tokens) ∧
          Fresh (m.token?.toList ++ tokens) (moves.filterMap AgentMove.token?) := by
        cases ht : m.token? with
        | none =>
            rw [List.filterMap_cons_none ht] at hnew
            refine ⟨fun token h => ?_, hnew⟩
            cases h
        | some token =>
            rw [List.filterMap_cons_some ht, Fresh.cons_iff] at hnew
            refine ⟨fun token' h => ?_, hnew.2⟩
            cases h
            exact hnew.1
      obtain ⟨s', hreach, hm⟩ := follows_move h m hstep.1
      obtain ⟨used, hf⟩ := ih hm hstep.2
      exact ⟨used, Follows.of_reaches hreach hf⟩

/-- What holds for every order of steps holds for the parts of an agent. -/
theorem sound_moves (router : Router) (interval : Nat) (moves : List AgentMove)
    (hnew : Fresh [""] (moves.filterMap AgentMove.token?)) :
    ∃ used s, Mirrors router { nodeName := router.nodeName } used
      (moves.foldl Agent.move (Agent.start router interval)) s ∧ s.Sound router := by
  obtain ⟨used, s, ⟨steps, rfl⟩, hm⟩ := follows_moves moves (mirrors_start router interval) hnew
  exact ⟨used, _, hm, (sound_start router {} Agent.queueSize ⟨{}, {}⟩).run _ _ steps⟩

end AgentParts

end WafControl
