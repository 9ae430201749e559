import WafControl.Proofs.AbsentRedirect
import WafControl.Proofs.TruthfulNode

/-!
# The options in force once a relay is present

A controller decides from the probe alone whether a relay has to be told to start. So a call for a
relay's presence that succeeds leaves it forwarding with the options of the call if it was not
forwarding before, and with those that it had if it was (`present_ok_in_force`). Here this is shown
for every run of calls, whatever fails on the way.
-/

namespace WafControl

/-- A call of a run, and the operations that the node offers during it. -/
structure RelayTurn (τ : Type) where
  ops : NodeOps τ
  call : RelayCall

namespace RelayController

variable {σ τ : Type} {node : τ → RelayNode σ} {view : σ → Ruleset}
  {forwarder : σ → Option (UInt16 × List SocketAddress)} (c : RelayController)

/-- The node after a run, whose latest turn is the first. -/
def afterTurns (start : Supervised τ) : List (RelayTurn τ) → Supervised τ
  | [] => start
  | t :: earlier => (c.reconcile t.ops t.call (afterTurns start earlier)).2.2

/-- The outcome of a turn after earlier ones. -/
def outcomeOf (start : Supervised τ) (t : RelayTurn τ) (earlier : List (RelayTurn τ)) :
    Except Failure Unit :=
  (c.reconcile t.ops t.call (c.afterTurns start earlier)).1

theorem afterTurns_cons (start : Supervised τ) (t : RelayTurn τ) (earlier : List (RelayTurn τ)) :
    (c.afterTurns start (t :: earlier)).node =
      (c.performed t.ops t.call (c.afterTurns start earlier).node).2 :=
  (c.reconcile_eq_performed t.ops t.call (c.afterTurns start earlier)).2

theorem outcomeOf_eq (start : Supervised τ) (t : RelayTurn τ) (earlier : List (RelayTurn τ)) :
    c.outcomeOf start t earlier =
      (c.performed t.ops t.call (c.afterTurns start earlier).node).1 :=
  (c.reconcile_eq_performed t.ops t.call (c.afterTurns start earlier)).1

variable {start : Supervised τ}

theorem settled_afterTurns (hstart : ∀ k, (node start.node k).Settled view forwarder)
    (turns : List (RelayTurn τ)) (hops : ∀ t ∈ turns, t.ops.Truthful node view forwarder)
    (k : String) : (node (c.afterTurns start turns).node k).Settled view forwarder := by
  induction turns generalizing k with
  | nil => exact hstart k
  | cons t earlier ih =>
      obtain ⟨ht, hearlier⟩ := List.forall_mem_cons.1 hops
      rw [afterTurns_cons]
      exact settled_performed ht c t.call (ih hearlier) k

/-- Whatever was called before and failed on the way: once a call for a relay's presence has
succeeded, the relay of the pod forwards, with the options of the call if it was not forwarding
before. If it was, it does so with the options it had, and no namespace has changed. -/
theorem present_ok_in_force (hstart : ∀ k, (node start.node k).Settled view forwarder)
    (t : RelayTurn τ) (earlier : List (RelayTurn τ))
    (hops : ∀ t' ∈ t :: earlier, t'.ops.Truthful node view forwarder) {options : RelayOptions}
    (hp : t.call.intent = .present options) (hok : c.outcomeOf start t earlier = .ok ()) :
    ∃ inst, (c.locate t.ops t.call.pod (c.afterTurns start earlier).node).1 = .ok inst ∧
      let before := node (c.afterTurns start earlier).node
      let after := node (c.afterTurns start (t :: earlier)).node
      (after inst.netns).Forwards view forwarder
          ((before inst.netns).inForce.getD options) ∧
        ((before inst.netns).inForce.isSome → after = before) := by
  obtain ⟨ht, hearlier⟩ := List.forall_mem_cons.1 hops
  rw [outcomeOf_eq] at hok
  rw [afterTurns_cons]
  exact performed_present_ok ht c hp (c.settled_afterTurns hstart earlier hearlier) hok

end RelayController

/-! ### A node on the loopback interface -/

namespace Surroundings

variable {σ : Type} {view : σ → Ruleset} {forwarder : σ → Option (UInt16 × List SocketAddress)}
  {w : Surroundings σ}

theorem requested_request {work : RelayServer σ → Except Status Unit × RelayServer σ}
    (doing : String) (k : String) (n : RelayNode σ) :
    Requested work (n k) ((n.request doing work k).1, (n.request doing work k).2 k) := by
  rw [RelayNode.request_fst, RelayNode.request_snd_self]
  exact .answered doing (n k)

theorem truthful_ops (hf : w.host.Open view forwarder) :
    w.ops.Truthful id view forwarder where
  container := fun _ _ => rfl
  networkNamespace := fun _ _ => rfl
  probe_found := fun _ _ => rfl
  probe := fun _ _ => rfl
  spawn := by
    intro inst n
    cases hs : w.spawnFault with
    | some e =>
        rw [w.ops_spawn_of_some hs]
        exact Or.inr ⟨⟨e, rfl⟩, rfl⟩
    | none =>
        rw [w.ops_spawn_of_none hs]
        exact Or.inl rfl
  start := fun k _ n => ⟨w.host, w.listen, hf, requested_request "StartRelay failed" k n⟩
  start_elsewhere := fun _ _ n _ hj => RelayNode.request_snd_of_ne _ _ hj n
  stop := fun k n => ⟨w.host, hf, requested_request "StopRelay failed" k n⟩
  stop_elsewhere := fun _ n _ hj => RelayNode.request_snd_of_ne _ _ hj n

/-- The operations when no answer to a start comes back. -/
def mutedOps (w : Surroundings σ) : NodeOps (RelayNode σ) :=
  { w.ops with
    start := fun k options n =>
      (.error ⟨"deadline exceeded", []⟩, (w.ops.start k options n).2) }

theorem truthful_mutedOps (hf : w.host.Open view forwarder) :
    w.mutedOps.Truthful id view forwarder :=
  { truthful_ops hf with
    start := by
      intro k options n
      refine ⟨w.host, w.listen, hf, ?_⟩
      have hn : (w.ops.start k options n).2 k = ((n k).request "StartRelay failed"
          (RelayServer.startRelay w.host w.listen (some options.toRequest))).2 :=
        RelayNode.request_snd_self _ _ _ _
      simp only [mutedOps, id_eq, hn]
      cases n k with
      | vacant host => exact .unsent _ _
      | occupied srv =>
          rw [RelayNamespace.request_occupied_snd]
          exact .unanswered srv _
    start_elsewhere := fun _ _ n _ hj => RelayNode.request_snd_of_ne _ _ hj n }

end Surroundings

/-- A turn for a pod that is found. -/
def loopbackRelayTurn (intent : Intent) : RelayTurn (RelayNode Loopback) where
  ops := (loopbackTurn Loopback.host intent).around.ops
  call := (loopbackTurn Loopback.host intent).call

/-- A turn for the same pod in which no answer to a start comes back. -/
def mutedTurn (intent : Intent) : RelayTurn (RelayNode Loopback) where
  ops := (loopbackTurn Loopback.host intent).around.mutedOps
  call := (loopbackTurn Loopback.host intent).call

theorem truthful_loopbackRelayTurn (intent : Intent) :
    (loopbackRelayTurn intent).ops.Truthful id (fun l => l.nft.ruleset) Loopback.forwarder :=
  Surroundings.truthful_ops Loopback.open_host

theorem truthful_mutedTurn (intent : Intent) :
    (mutedTurn intent).ops.Truthful id (fun l => l.nft.ruleset) Loopback.forwarder :=
  Surroundings.truthful_mutedOps Loopback.open_host

theorem settled_vacantNode (k : String) :
    (vacantNode.node k).Settled (fun l => l.nft.ruleset) Loopback.forwarder :=
  ⟨rfl, Or.inl rfl⟩

/-- Options with the given application port. -/
def loopbackOptions (appPort : UInt16) : RelayOptions := ⟨"127.0.0.1", 31000, appPort, 50010⟩

namespace RelayController

/-- A relay was started and stopped, and is started again, with other options and without an
answer. -/
def mutedRestart : List (RelayTurn (RelayNode Loopback)) :=
  [ mutedTurn (.present (loopbackOptions 8081)), loopbackRelayTurn .absent,
    loopbackRelayTurn (.present (loopbackOptions 8080)) ]

/-- The next call finds the relay forwarding with the options of the start without an answer. -/
theorem muted_restart_in_force :
    (loopbackController.outcomeOf vacantNode (mutedTurn (.present (loopbackOptions 8081)))
        [loopbackRelayTurn .absent, loopbackRelayTurn (.present (loopbackOptions 8080))]).isOk =
          false ∧
      ((loopbackController.afterTurns vacantNode
          (loopbackRelayTurn (.present (loopbackOptions 8082)) :: mutedRestart)).node
        "/proc/7/ns/net").Forwards (fun l => l.nft.ruleset) Loopback.forwarder
          (loopbackOptions 8081) := by
  have hops : ∀ t ∈ loopbackRelayTurn (.present (loopbackOptions 8082)) :: mutedRestart,
      t.ops.Truthful id (fun l => l.nft.ruleset) Loopback.forwarder := by
    refine List.forall_mem_cons.2 ⟨truthful_loopbackRelayTurn _, ?_⟩
    refine List.forall_mem_cons.2 ⟨truthful_mutedTurn _, ?_⟩
    refine List.forall_mem_cons.2 ⟨truthful_loopbackRelayTurn _, ?_⟩
    exact List.forall_mem_singleton.2 (truthful_loopbackRelayTurn _)
  obtain ⟨inst, hinst, hforwards, -⟩ := present_ok_in_force loopbackController settled_vacantNode
    (loopbackRelayTurn (.present (loopbackOptions 8082))) mutedRestart hops rfl rfl
  cases hinst
  refine ⟨rfl, ?_⟩
  have hbefore : ((loopbackController.afterTurns vacantNode mutedRestart).node
      "/proc/7/ns/net").inForce = some (loopbackOptions 8081) := by decide
  rw [id_eq, hbefore] at hforwards
  exact hforwards

/-- Once a call for a relay's presence has succeeded, the relay of the pod forwards with the options
of the call. -/
def PresentPutsInForce : Prop :=
  ∀ (σ τ : Type) (node : τ → RelayNode σ) (view : σ → Ruleset)
    (forwarder : σ → Option (UInt16 × List SocketAddress)) (c : RelayController)
    (start : Supervised τ) (t : RelayTurn τ) (earlier : List (RelayTurn τ))
    (options : RelayOptions) (inst : RelayInstance),
    (∀ k, (node start.node k).Settled view forwarder) →
    (∀ t' ∈ t :: earlier, t'.ops.Truthful node view forwarder) →
    t.call.intent = .present options → c.outcomeOf start t earlier = .ok () →
    (c.locate t.ops t.call.pod (c.afterTurns start earlier).node).1 = .ok inst →
    (node (c.afterTurns start (t :: earlier)).node inst.netns).Forwards view forwarder options

/-- A relay that forwards is not told of other options. -/
theorem present_not_always_in_force : ¬ PresentPutsInForce := by
  intro h
  have hops : ∀ t ∈ [loopbackRelayTurn (.present (loopbackOptions 8081)),
      loopbackRelayTurn (.present (loopbackOptions 8080))],
      t.ops.Truthful id (fun l => l.nft.ruleset) Loopback.forwarder := by
    refine List.forall_mem_cons.2 ⟨truthful_loopbackRelayTurn _, ?_⟩
    exact List.forall_mem_singleton.2 (truthful_loopbackRelayTurn _)
  have hforwards := h Loopback (RelayNode Loopback) id (fun l => l.nft.ruleset)
    Loopback.forwarder loopbackController vacantNode
    (loopbackRelayTurn (.present (loopbackOptions 8081)))
    [loopbackRelayTurn (.present (loopbackOptions 8080))] (loopbackOptions 8081)
    ⟨⟨"blue", "shop-1"⟩, ⟨.containerd, "6f1c"⟩, "/proc/7/ns/net", "node-1"⟩
    settled_vacantNode hops rfl rfl rfl
  exact absurd hforwards.inForce_eq (by decide)

end RelayController

end WafControl
