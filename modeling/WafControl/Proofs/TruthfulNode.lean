import WafControl.Proofs.RelayHealth
import WafControl.Proofs.RelayNode

/-!
# Reconciliations on a truthful node

A relay controller reaches the relay processes of its node through operations of any kind, as long
as these are truthful (`NodeOps.Truthful`): a probe tells the truth, and starts and stops are
requests to the relay process of a namespace. Such a request may be lost on its way, and so may the
answer, and whatever the process needs of its namespace may fail.

A reconciliation keeps every namespace settled (`settled_performed`): its relay serves in full, or
it is down. One that makes a relay present and succeeds leaves it forwarding, with the options of
the call unless it was forwarding before (`performed_present_ok`).
-/

namespace WafControl

namespace RelayServer

variable {σ : Type} (view : σ → Ruleset) (forwarder : σ → Option (UInt16 × List SocketAddress))

/-- The server is down, or it serves. -/
def Settled (srv : RelayServer σ) : Prop :=
  Down view forwarder srv ∨ ∃ options gateways, Serves view forwarder options gateways srv

variable {view forwarder} {srv : RelayServer σ}

theorem Settled.upright (h : srv.Settled view forwarder) : Upright view forwarder srv := by
  rcases h with hdown | ⟨options, gateways, hserves⟩
  · exact hdown.upright
  · exact hserves.upright

/-- A request to start that succeeds has the server serve with its options, also if it did so
before. -/
theorem settled_startRelay {env : RelayHost σ} (hf : env.Open view forwarder) (listen : Ip)
    (options : RelayOptions) (h : srv.Settled view forwarder) :
    (srv.startRelay env listen (some options.toRequest)).2.Settled view forwarder ∧
      ((srv.startRelay env listen (some options.toRequest)).1 = .ok () → ∃ gateways,
        Serves view forwarder options gateways
          (srv.startRelay env listen (some options.toRequest)).2) := by
  unfold startRelay
  cases ho : RelayOptions.ofRequest (some options.toRequest) with
  | error fault => exact ⟨h, fun hok => by cases hok⟩
  | ok options' =>
      cases RelayOptions.eq_of_ofRequest_toRequest ho
      simp only
      by_cases hsame : srv.active = some options
      -- nothing is done for options that are active already
      · rw [start, if_pos hsame]
        refine ⟨h, fun _ => ?_⟩
        rcases h with hdown | ⟨options', gateways, hserves⟩
        · rw [hdown.idle.active] at hsame
          cases hsame
        · rw [hserves.active] at hsame
          cases hsame
          exact ⟨gateways, hserves⟩
      · have hl := launched_start hf listen [] hsame h.upright
        revert hl
        generalize srv.start env listen options = result
        rintro (⟨status, hdown⟩ | ⟨hserves⟩)
        · exact ⟨Or.inl hdown, fun hok => by cases hok⟩
        · exact ⟨Or.inr ⟨options, _, hserves⟩, fun _ => ⟨_, hserves⟩⟩

end RelayServer

/-! ### What requests come to -/

namespace RelayNamespace

variable {σ : Type} {doing : String} {work : RelayServer σ → Except Status Unit × RelayServer σ}
  {srv : RelayServer σ}

theorem request_occupied_snd :
    ((occupied srv).request doing work).2 = occupied (work srv).2 := by
  rw [request]
  obtain ⟨answer, after⟩ := work srv
  cases answer with
  | error status => rfl
  | ok u => rfl

theorem request_occupied_ok (h : ((occupied srv).request doing work).1 = .ok ()) :
    (work srv).1 = .ok () := by
  rw [request] at h
  revert h
  obtain ⟨answer, after⟩ := work srv
  cases answer with
  | error status => exact fun h => by cases h
  | ok u => exact fun _ => rfl

end RelayNamespace

/-- What a request to the relay process of a namespace comes to. -/
inductive Requested {σ : Type} (work : RelayServer σ → Except Status Unit × RelayServer σ) :
    RelayNamespace σ → Except Failure Unit × RelayNamespace σ → Prop
  /-- The request does not reach the process. -/
  | unsent (ns : RelayNamespace σ) (e : Failure) : Requested work ns (.error e, ns)
  /-- The answer of the process is lost. -/
  | unanswered (srv : RelayServer σ) (e : Failure) :
      Requested work (.occupied srv) (.error e, .occupied (work srv).2)
  | answered (doing : String) (ns : RelayNamespace σ) : Requested work ns (ns.request doing work)

namespace RelayNamespace

variable {σ : Type} (view : σ → Ruleset) (forwarder : σ → Option (UInt16 × List SocketAddress))

/-- The options that the relay serves with, if it does. -/
def inForce : RelayNamespace σ → Option RelayOptions
  | vacant _ => none
  | occupied srv => if srv.serving then srv.active else none

/-- The relay forwards with the given options. -/
def Forwards (options : RelayOptions) (ns : RelayNamespace σ) : Prop :=
  ∃ srv gateways, ns = occupied srv ∧ RelayServer.Serves view forwarder options gateways srv

/-- Without a relay process nothing forwards, and the ruleset is as a relay leaves it; a relay
process is down, or serves. -/
def Settled : RelayNamespace σ → Prop
  | vacant host => forwarder host = none ∧ (view host).AsLeft
  | occupied srv => srv.Settled view forwarder

variable {view forwarder} {ns : RelayNamespace σ}

theorem Forwards.inForce_eq {options : RelayOptions} (h : ns.Forwards view forwarder options) :
    ns.inForce = some options := by
  obtain ⟨srv, gateways, rfl, hserves⟩ := h
  rw [inForce, if_pos hserves.serving]
  exact hserves.active

theorem Settled.spawned (h : ns.Settled view forwarder) : ns.spawned.Settled view forwarder := by
  cases ns with
  | vacant host => exact Or.inl ⟨⟨rfl, rfl⟩, h.1, h.2⟩
  | occupied srv => exact h

/-- A relay is active exactly if it forwards. -/
theorem Settled.probe_cases (h : ns.Settled view forwarder) :
    (∃ options, ns.probe = .active ∧ ns.Forwards view forwarder options) ∨
      (ns.probe = .idle ∨ ns.probe = .absent) ∧ ns.inForce = none := by
  cases ns with
  | vacant host => exact Or.inr ⟨Or.inr rfl, rfl⟩
  | occupied srv =>
      rcases h with hdown | ⟨options, gateways, hserves⟩
      · right
        simp only [probe, inForce, hdown.idle.serving]
        exact ⟨Or.inl rfl, rfl⟩
      · exact Or.inl ⟨options, if_pos hserves.serving, srv, gateways, rfl, hserves⟩

variable {result : Except Failure Unit × RelayNamespace σ}

theorem Settled.start {env : RelayHost σ} (hf : env.Open view forwarder) {listen : Ip}
    {options : RelayOptions} (h : ns.Settled view forwarder)
    (hr : Requested (RelayServer.startRelay env listen (some options.toRequest)) ns result) :
    result.2.Settled view forwarder ∧
      (result.1 = .ok () → result.2.Forwards view forwarder options) := by
  cases hr with
  | unsent ns e => exact ⟨h, fun hok => by cases hok⟩
  | unanswered srv e =>
      exact ⟨(RelayServer.settled_startRelay hf listen options h).1, fun hok => by cases hok⟩
  | answered doing ns =>
      cases ns with
      | vacant host => exact ⟨h, fun hok => by cases hok⟩
      | occupied srv =>
          obtain ⟨hsettled, hserves⟩ := RelayServer.settled_startRelay hf listen options h
          rw [request_occupied_snd]
          refine ⟨hsettled, fun hok => ?_⟩
          obtain ⟨gateways, hserves⟩ := hserves (request_occupied_ok hok)
          exact ⟨_, gateways, rfl, hserves⟩

theorem Settled.stop {env : RelayHost σ} (hf : env.Open view forwarder)
    (h : ns.Settled view forwarder) (hr : Requested (RelayServer.stopRelay env) ns result) :
    result.2.Settled view forwarder := by
  cases hr with
  | unsent ns e => exact h
  | unanswered srv e => exact Or.inl (RelayServer.down_deactivate hf (RelayServer.Settled.upright h))
  | answered doing ns =>
      cases ns with
      | vacant host => exact h
      | occupied srv =>
          rw [request_occupied_snd]
          exact Or.inl (RelayServer.down_deactivate hf (RelayServer.Settled.upright h))

end RelayNamespace

/-! ### Truthful nodes -/

/-- The operations find the namespaces of a node in their state as they are: a probe tells the
truth, a spawned process comes up idle, and starts and stops are requests to the relay process of
their namespace. -/
structure NodeOps.Truthful {σ τ : Type} (ops : NodeOps τ) (node : τ → RelayNode σ)
    (view : σ → Ruleset) (forwarder : σ → Option (UInt16 × List SocketAddress)) : Prop where
  container : ∀ pod s, node (ops.container pod s).2 = node s
  networkNamespace : ∀ container s, node (ops.networkNamespace container s).2 = node s
  probe_found : ∀ k s, (ops.probe k s).1 = (node s k).probe
  probe : ∀ k s, node (ops.probe k s).2 = node s
  spawn : ∀ inst s,
    node (ops.spawn inst s).2 = Function.update (node s) inst.netns (node s inst.netns).spawned ∨
      (∃ e, (ops.spawn inst s).1 = .error e) ∧ node (ops.spawn inst s).2 = node s
  start : ∀ k options s, ∃ env listen, env.Open view forwarder ∧
    Requested (RelayServer.startRelay env listen (some options.toRequest)) (node s k)
      ((ops.start k options s).1, node (ops.start k options s).2 k)
  start_elsewhere : ∀ k options s, ∀ j, j ≠ k → node (ops.start k options s).2 j = node s j
  stop : ∀ k s, ∃ env, env.Open view forwarder ∧
    Requested (RelayServer.stopRelay env) (node s k)
      ((ops.stop k s).1, node (ops.stop k s).2 k)
  stop_elsewhere : ∀ k s, ∀ j, j ≠ k → node (ops.stop k s).2 j = node s j

namespace RelayController

variable {σ τ : Type} (node : τ → RelayNode σ) (view : σ → Ruleset)
  (forwarder : σ → Option (UInt16 × List SocketAddress))

/-- A reconciliation leaves its namespace settled, and the others as they were. -/
structure Settles (k : String) (n : RelayNode σ) (result : Except Failure Unit × τ) : Prop where
  settled : (node result.2 k).Settled view forwarder
  elsewhere : ∀ j, j ≠ k → node result.2 j = n j

/-- If starts come to succeed, the relay forwards with their options. -/
structure Begins (k : String) (options : RelayOptions) (n : RelayNode σ)
    (result : Except Failure Unit × τ) : Prop extends Settles node view forwarder k n result where
  ok : result.1 = .ok () → (node result.2 k).Forwards view forwarder options

variable {node view forwarder} {ops : NodeOps τ} {s : τ}

theorem Settles.all {k : String} {n : RelayNode σ} {result : Except Failure Unit × τ}
    (hr : Settles node view forwarder k n result) (h : ∀ j, (n j).Settled view forwarder)
    (j : String) : (node result.2 j).Settled view forwarder := by
  by_cases hj : j = k
  · rw [hj]
    exact hr.settled
  · rw [hr.elsewhere j hj]
    exact h j

/-- What came before a start in its namespace does not matter to what it comes to. -/
theorem Begins.of_elsewhere {k : String} {options : RelayOptions} {n n' : RelayNode σ}
    {result : Except Failure Unit × τ} (hr : Begins node view forwarder k options n' result)
    (h : ∀ j, j ≠ k → n' j = n j) : Begins node view forwarder k options n result :=
  { hr with elsewhere := fun j hj => (hr.elsewhere j hj).trans (h j hj) }

variable (hops : ops.Truthful node view forwarder)

include hops in
theorem begins_start {k : String} (options : RelayOptions)
    (h : (node s k).Settled view forwarder) :
    Begins node view forwarder k options (node s) (ops.start k options s) := by
  obtain ⟨env, listen, hf, hr⟩ := hops.start k options s
  obtain ⟨hsettled, hok⟩ := h.start hf hr
  exact ⟨⟨hsettled, hops.start_elsewhere k options s⟩, hok⟩

include hops in
theorem begins_startSpawned (c : RelayController) (p : PendingStart)
    (h : (node s p.netns).Settled view forwarder) :
    Begins node view forwarder p.netns p.options (node s)
      ((c.startSpawned ops p s).1, (c.startSpawned ops p s).2.2) := by
  -- a start that failed leaves the namespace settled, whatever became of its request
  fun_induction RelayController.startSpawned c ops p s with
  | case1 p s outcome s' hfinished =>
      have hb := begins_start hops p.options h
      obtain ⟨answer, hs, hiff⟩ := start_of_tryStart_finished hfinished
      rw [hs] at hb
      exact ⟨⟨hb.settled, hb.elsewhere⟩, fun hok => hb.ok (hiff.1 hok)⟩
  | case2 p s d q s' hwaiting rest ih =>
      have hb := begins_start hops p.options h
      obtain ⟨⟨e, hs⟩, hnetns, hoptions⟩ := start_of_tryStart_waiting hwaiting
      rw [hs] at hb
      have hrest := ih (hnetns ▸ hb.settled)
      rw [hnetns, hoptions] at hrest
      exact hrest.of_elsewhere hb.elsewhere

include hops in
theorem node_locate (c : RelayController) (pod : PodRef) (s : τ) :
    node (c.locate ops pod s).2 = node s :=
  locate_unchanged node hops.container hops.networkNamespace pod s

include hops in
/-- A relay that forwards is left as it is, and one that does not is started. -/
theorem begins_present (c : RelayController) (inst : RelayInstance) (options : RelayOptions)
    (h : (node s inst.netns).Settled view forwarder) :
    (∃ o, (node s inst.netns).Forwards view forwarder o ∧
        c.finish ops (c.present ops inst options (node s inst.netns).probe s) = (.ok (), s)) ∨
      (node s inst.netns).inForce = none ∧
        Begins node view forwarder inst.netns options (node s)
          (c.finish ops (c.present ops inst options (node s inst.netns).probe s)) := by
  rcases h.probe_cases with ⟨o, hp, hforwards⟩ | ⟨hp | hp, hnone⟩
  · rw [hp]
    exact Or.inl ⟨o, hforwards, rfl⟩
  · rw [hp]
    exact Or.inr ⟨hnone, begins_start hops options h⟩
  · rw [hp]
    refine Or.inr ⟨hnone, ?_⟩
    have hspawn := hops.spawn inst s
    rw [present]
    cases hs : ops.spawn inst s with
    | mk answer s' =>
        rw [hs] at hspawn
        have helsewhere : ∀ j, j ≠ inst.netns → node s' j = node s j := by
          intro j hj
          rcases hspawn with hspawned | ⟨-, hsame⟩
          · rw [hspawned]
            exact Function.update_of_ne hj _ _
          · rw [hsame]
        have hsettled : (node s' inst.netns).Settled view forwarder := by
          rcases hspawn with hspawned | ⟨-, hsame⟩
          · rw [hspawned, Function.update_self]
            exact h.spawned
          · rw [hsame]
            exact h
        cases answer with
        | error e => exact ⟨⟨hsettled, helsewhere⟩, fun hok => by cases hok⟩
        | ok u =>
            simp only
            rw [finish_tryStart]
            exact (begins_startSpawned hops c ⟨inst.netns, options, c.startBackoff.retry⟩
              hsettled).of_elsewhere helsewhere

include hops in
theorem settles_absent (c : RelayController) (inst : RelayInstance)
    (h : (node s inst.netns).Settled view forwarder) :
    Settles node view forwarder inst.netns (node s)
      (c.finish ops (absent ops inst (node s inst.netns).probe s)) := by
  rcases h.probe_cases with ⟨o, hp, -⟩ | ⟨hp | hp, -⟩
  · rw [hp]
    obtain ⟨env, hf, hr⟩ := hops.stop inst.netns s
    exact ⟨h.stop hf hr, hops.stop_elsewhere inst.netns s⟩
  · rw [hp]
    exact ⟨h, fun _ _ => rfl⟩
  · rw [hp]
    exact ⟨h, fun _ _ => rfl⟩

include hops in
/-- Either no namespace is found for the pod, and nothing changes, or the relay there is made
present or absent as a probe that tells the truth suggests. -/
theorem performed_cases (c : RelayController) (call : RelayCall) (s : τ) :
    (∃ e s', c.performed ops call s = (.error e, s') ∧ node s' = node s) ∨
      ∃ inst s', (c.locate ops call.pod s).1 = .ok inst ∧ node s' = node s ∧
        c.performed ops call s =
          match call.intent with
          | .present options =>
            c.finish ops (c.present ops inst options (node s' inst.netns).probe s')
          | .absent => c.finish ops (absent ops inst (node s' inst.netns).probe s') := by
  have hlocate := node_locate hops c call.pod s
  unfold performed
  cases hl : c.locate ops call.pod s with
  | mk located s₁ =>
      rw [hl] at hlocate
      cases located with
      | error e => exact Or.inl ⟨e, s₁, rfl, hlocate⟩
      | ok inst =>
          refine Or.inr ⟨inst, (ops.probe inst.netns s₁).2, rfl, ?_, ?_⟩
          · exact (hops.probe inst.netns s₁).trans hlocate
          · have hfound : (node (ops.probe inst.netns s₁).2 inst.netns).probe =
                (ops.probe inst.netns s₁).1 := by
              rw [hops.probe, hops.probe_found]
            cases call.intent with
            | present options => simp only [hfound]
            | absent => simp only [hfound]

include hops in
/-- One reconciliation keeps every namespace settled. -/
theorem settled_performed (c : RelayController) (call : RelayCall)
    (h : ∀ k, (node s k).Settled view forwarder) (k : String) :
    (node (c.performed ops call s).2 k).Settled view forwarder := by
  rcases performed_cases hops c call s with ⟨e, s', hr, hs⟩ | ⟨inst, s', -, hs, hr⟩
  · rw [hr, hs]
    exact h k
  · rw [← hs] at h
    rw [hr]
    cases call.intent with
    | absent => exact (settles_absent hops c inst (h inst.netns)).all h k
    | present options =>
        rcases begins_present hops c inst options (h inst.netns) with ⟨o, -, hdone⟩ | ⟨-, hbegins⟩
        · simp only [hdone]
          exact h k
        · exact hbegins.toSettles.all h k

include hops in
/-- A call for a relay's presence that succeeds leaves it forwarding. -/
theorem performed_present_ok (c : RelayController) {call : RelayCall} {options : RelayOptions}
    (hp : call.intent = .present options) (h : ∀ k, (node s k).Settled view forwarder)
    (hok : (c.performed ops call s).1 = .ok ()) :
    ∃ inst, (c.locate ops call.pod s).1 = .ok inst ∧
      (node (c.performed ops call s).2 inst.netns).Forwards view forwarder
        ((node s inst.netns).inForce.getD options) ∧
      ((node s inst.netns).inForce.isSome → node (c.performed ops call s).2 = node s) := by
  rcases performed_cases hops c call s with ⟨e, s', hr, -⟩ | ⟨inst, s', hinst, hs, hr⟩
  · rw [hr] at hok
    cases hok
  · refine ⟨inst, hinst, ?_⟩
    rw [← hs] at h ⊢
    rw [hr] at hok ⊢
    simp only [hp] at hok ⊢
    rcases begins_present hops c inst options (h inst.netns) with
      ⟨o, hforwards, hdone⟩ | ⟨hnone, hbegins⟩
    · rw [hdone, hforwards.inForce_eq]
      exact ⟨hforwards, fun _ => rfl⟩
    · rw [hnone]
      exact ⟨hbegins.ok hok, fun hsome => by cases hsome⟩

end RelayController

end WafControl
