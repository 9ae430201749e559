import Mathlib.Logic.Function.Basic
import WafControl.Proofs.Reconciling
import WafControl.Proofs.Serving

/-!
# A node whose relays are real

Here the operations of a relay controller reach the relay servers in the namespaces of pods. A probe
tells the truth: a server that serves is active, one that does not is idle, and where no process
runs the relay is absent. A spawned process comes up idle, and starts and stops are requests to it.

What may fail on the way is given anew for every reconciliation (`Surroundings`): pods and
namespaces may not be found, no process may be started, and the packet filter, the resolver and the
binding of ports fail as the namespace's host says.
-/

namespace WafControl

/-- The network namespace of a pod. -/
inductive RelayNamespace (σ : Type) where
  /-- No relay process runs in it. -/
  | vacant (host : σ)
  | occupied (server : RelayServer σ)

/-- The namespaces of a node, by their paths. -/
abbrev RelayNode (σ : Type) := String → RelayNamespace σ

namespace RelayNamespace

variable {σ : Type}

/-- The host that the namespace is, with or without a relay process. -/
def host : RelayNamespace σ → σ
  | vacant host => host
  | occupied srv => srv.host

def probe : RelayNamespace σ → ProbeState
  | vacant _ => .absent
  | occupied srv => if srv.serving then .active else .idle

/-- Starts a relay process, unless one runs. -/
def spawned : RelayNamespace σ → RelayNamespace σ
  | vacant host => occupied { host }
  | occupied srv => occupied srv

/-- A request to the relay process, if there is one. -/
def request (doing : String) (work : RelayServer σ → Except Status Unit × RelayServer σ) :
    RelayNamespace σ → Except Failure Unit × RelayNamespace σ
  | vacant host => (.error ⟨"failed to connect to relay", []⟩, vacant host)
  | occupied srv =>
    match work srv with
    | (.ok (), srv) => (.ok (), occupied srv)
    | (.error status, srv) => (.error ⟨doing, [status.display]⟩, occupied srv)

end RelayNamespace

/-- A request to the relay process of a namespace of the node. -/
def RelayNode.request {σ : Type} (doing : String)
    (work : RelayServer σ → Except Status Unit × RelayServer σ) (k : String) (n : RelayNode σ) :
    Except Failure Unit × RelayNode σ :=
  (((n k).request doing work).1, Function.update n k ((n k).request doing work).2)

theorem RelayNode.request_fst {σ : Type} (doing : String)
    (work : RelayServer σ → Except Status Unit × RelayServer σ) (k : String) (n : RelayNode σ) :
    (n.request doing work k).1 = ((n k).request doing work).1 := rfl

theorem RelayNode.request_snd_self {σ : Type} (doing : String)
    (work : RelayServer σ → Except Status Unit × RelayServer σ) (k : String) (n : RelayNode σ) :
    (n.request doing work k).2 k = ((n k).request doing work).2 :=
  Function.update_self _ _ _

theorem RelayNode.request_snd_of_ne {σ : Type} (doing : String)
    (work : RelayServer σ → Except Status Unit × RelayServer σ) {j k : String} (h : j ≠ k)
    (n : RelayNode σ) : (n.request doing work k).2 j = n j :=
  Function.update_of_ne h _ _

/-- What surrounds the namespaces of a node during a reconciliation. -/
structure Surroundings (σ : Type) where
  container : PodRef → Except Failure ContainerRef
  networkNamespace : ContainerRef → Except Failure String
  /-- Why no process can be started, if none can. -/
  spawnFault : Option Failure := none
  host : RelayHost σ
  listen : Ip := .v4 ⟨0, 0, 0, 0⟩

namespace Surroundings

variable {σ : Type} (w : Surroundings σ)

/-- The operations that a relay controller has on the node. -/
def ops : NodeOps (RelayNode σ) where
  container := fun pod n => (w.container pod, n)
  networkNamespace := fun container n => (w.networkNamespace container, n)
  probe := fun netns n => ((n netns).probe, n)
  spawn := fun inst n =>
    match w.spawnFault with
    | some e => (.error e, n)
    | none => (.ok (), Function.update n inst.netns (n inst.netns).spawned)
  start := fun netns options =>
    RelayNode.request "StartRelay failed"
      (RelayServer.startRelay w.host w.listen (some options.toRequest)) netns
  stop := RelayNode.request "StopRelay failed" (RelayServer.stopRelay w.host)

@[simp] theorem ops_probe (k : String) (n : RelayNode σ) :
    w.ops.probe k n = ((n k).probe, n) := rfl

theorem ops_start (k : String) (options : RelayOptions) (n : RelayNode σ) :
    w.ops.start k options n = RelayNode.request "StartRelay failed"
      (RelayServer.startRelay w.host w.listen (some options.toRequest)) k n := rfl

theorem ops_spawn_of_some {e : Failure} (h : w.spawnFault = some e) (inst : RelayInstance)
    (n : RelayNode σ) : w.ops.spawn inst n = (.error e, n) := by
  simp only [ops, h]

theorem ops_spawn_of_none (h : w.spawnFault = none) (inst : RelayInstance) (n : RelayNode σ) :
    w.ops.spawn inst n =
      (.ok (), Function.update n inst.netns (n inst.netns).spawned) := by
  simp only [ops, h]

/-- The namespace of a pod, if it is found. -/
def netns? (pod : PodRef) : Option String :=
  match w.container pod with
  | .error _ => none
  | .ok container => (w.networkNamespace container).toOption

theorem locate_of_netns? (c : RelayController) {pod : PodRef} {k : String}
    (h : w.netns? pod = some k) (n : RelayNode σ) :
    ∃ inst, inst.netns = k ∧ c.locate w.ops pod n = (.ok inst, n) := by
  unfold netns? at h
  cases hc : w.container pod with
  | error e => simp [hc] at h
  | ok container =>
      cases hn : w.networkNamespace container with
      | error e => simp [hc, hn, Except.toOption] at h
      | ok netns =>
          have hk : netns = k := by simpa [hc, hn, Except.toOption] using h
          refine ⟨⟨pod, container, netns, c.nodeName⟩, hk, ?_⟩
          simp only [RelayController.locate, ops, hc, hn]

theorem locate_of_none (c : RelayController) {pod : PodRef} (h : w.netns? pod = none)
    (n : RelayNode σ) : ∃ e, c.locate w.ops pod n = (.error e, n) := by
  unfold netns? at h
  cases hc : w.container pod with
  | error e => exact ⟨e, by simp only [RelayController.locate, ops, hc]⟩
  | ok container =>
      cases hn : w.networkNamespace container with
      | error e => exact ⟨_, by simp only [RelayController.locate, ops, hc, hn]; rfl⟩
      | ok netns => simp [hc, hn, Except.toOption] at h

theorem performed_of_none (c : RelayController) {call : RelayCall}
    (h : w.netns? call.pod = none) (n : RelayNode σ) :
    ∃ e, c.performed w.ops call n = (.error e, n) := by
  obtain ⟨e, he⟩ := w.locate_of_none c h n
  exact ⟨e, by rw [RelayController.performed, he]⟩

/-! ### Making a relay absent -/

/-- A relay that is not serving is left as it is, and so is its namespace. -/
theorem performed_absent_of_not_active (c : RelayController) {call : RelayCall} {k : String}
    (hk : w.netns? call.pod = some k) (ha : call.intent = .absent) {n : RelayNode σ}
    (hn : (n k).probe ≠ .active) : c.performed w.ops call n = (.ok (), n) := by
  obtain ⟨inst, rfl, hl⟩ := w.locate_of_netns? c hk n
  rw [RelayController.performed, hl, ha]
  simp only [ops_probe]
  cases hp : n inst.netns with
  | vacant host => rfl
  | occupied srv =>
      rw [hp, RelayNamespace.probe] at hn
      cases hs : srv.serving with
      | true => exact absurd (if_pos hs) hn
      | false =>
          simp only [RelayNamespace.probe, hs]
          rfl

/-- A relay that is serving is stopped. -/
theorem performed_absent_of_serving (c : RelayController) {call : RelayCall} {k : String}
    (hk : w.netns? call.pod = some k) (ha : call.intent = .absent) {n : RelayNode σ}
    {srv : RelayServer σ} (hn : n k = .occupied srv) (hs : srv.serving = true) :
    c.performed w.ops call n =
      RelayNode.request "StopRelay failed" (RelayServer.stopRelay w.host) k n := by
  obtain ⟨inst, rfl, hl⟩ := w.locate_of_netns? c hk n
  rw [RelayController.performed, hl, ha]
  simp only [ops_probe, hn, RelayNamespace.probe, hs, if_true]
  rfl

/-! ### Making a relay present -/

variable (view : σ → Ruleset)

/-- The relay process of a namespace has no forwarder, and there are the given rules of a relay or
none. -/
def Quiet (rules : List NftRule) (ns : RelayNamespace σ) : Prop :=
  ∃ srv, ns = .occupied srv ∧ srv.Idle ∧ (srv.owned view = rules ∨ srv.owned view = [])

/-- The relay process of a namespace serves. -/
def Up (ns : RelayNamespace σ) : Prop :=
  ∃ options host, ns = .occupied ⟨some options, true, host⟩

/-- What starts in one namespace come to: the relay is up if they succeed, and quiet if they fail.
No other namespace changes. -/
structure Tried (k : String) (rules : List NftRule) (n : RelayNode σ)
    (result : Except Failure Unit × RelayNode σ) : Prop where
  ok : result.1 = .ok () → Up (result.2 k)
  error : ∀ e, result.1 = .error e → Quiet view rules (result.2 k)
  elsewhere : ∀ j, j ≠ k → result.2 j = n j

variable {view} {w}

theorem tried_start (hf : w.host.Faithful view) {k : String} {rules : List NftRule}
    {n : RelayNode σ} (hq : Quiet view rules (n k)) (options : RelayOptions) :
    Tried view k rules n (w.ops.start k options n) := by
  obtain ⟨srv, hn, hidle, hrules⟩ := hq
  have hstart := RelayServer.started_startRelay hf w.listen (some options.toRequest) hidle
  rw [ops_start, RelayNode.request, hn, RelayNamespace.request]
  revert hstart
  generalize srv.startRelay w.host w.listen (some options.toRequest) = result
  rintro (⟨status, hidle', hrules'⟩ | ⟨o, host⟩)
  · refine ⟨fun h => ?_, fun e _ => ?_, fun j hj => Function.update_of_ne hj _ _⟩
    · cases h
    · refine ⟨_, Function.update_self _ _ _, hidle', ?_⟩
      rcases hrules' with h | h
      · rwa [h]
      · exact Or.inr h
  · refine ⟨fun _ => ?_, fun e h => ?_, fun j hj => Function.update_of_ne hj _ _⟩
    · exact ⟨o, host, Function.update_self _ _ _⟩
    · cases h

/-- Starts of a relay that failed do not change what the next one comes to. -/
theorem Tried.trans {k : String} {rules : List NftRule} {n n' : RelayNode σ}
    {result : Except Failure Unit × RelayNode σ} (h : ∀ j, j ≠ k → n' j = n j)
    (ht : Tried view k rules n' result) : Tried view k rules n result :=
  ⟨ht.ok, ht.error, fun j hj => (ht.elsewhere j hj).trans (h j hj)⟩

theorem tried_startSpawned (hf : w.host.Faithful view) (c : RelayController)
    {rules : List NftRule} (p : PendingStart) {n : RelayNode σ}
    (hq : Quiet view rules (n p.netns)) :
    Tried view p.netns rules n
      ((c.startSpawned w.ops p n).1, (c.startSpawned w.ops p n).2.2) := by
  fun_induction RelayController.startSpawned c w.ops p n with
  | case1 p n outcome n' h =>
      have ht := tried_start hf hq p.options
      obtain ⟨answer, hs, hiff⟩ := RelayController.start_of_tryStart_finished h
      rw [hs] at ht
      refine ⟨fun ho => ht.ok (hiff.1 ho), fun e he => ?_, ht.elsewhere⟩
      cases answer with
      | ok u =>
          have ho := hiff.2 rfl
          rw [show outcome = .error e from he] at ho
          cases ho
      | error e' => exact ht.error e' rfl
  | case2 p n d q n' h rest ih =>
      have ht := tried_start hf hq p.options
      obtain ⟨⟨e, hs⟩, hnetns, -⟩ := RelayController.start_of_tryStart_waiting h
      rw [hs] at ht
      have hrest := ih (hnetns ▸ ht.error e rfl)
      rw [hnetns] at hrest
      exact hrest.trans ht.elsewhere

/-- To make a relay present in a namespace without one, a process is started, which is then told to
start. -/
theorem performed_present_of_vacant (hf : w.host.Faithful view) (c : RelayController)
    {call : RelayCall} {k : String} (hk : w.netns? call.pod = some k) {options : RelayOptions}
    (hp : call.intent = .present options) {n : RelayNode σ} {host : σ} (hn : n k = .vacant host) :
    (∃ e, c.performed w.ops call n = (.error e, n)) ∨
      Tried view k (view host).ownedRules n (c.performed w.ops call n) := by
  obtain ⟨inst, rfl, hl⟩ := w.locate_of_netns? c hk n
  rw [RelayController.performed, hl, hp]
  simp only [ops_probe, hn, RelayNamespace.probe, RelayController.present]
  cases hs : w.spawnFault with
  | some e =>
      left
      rw [w.ops_spawn_of_some hs]
      exact ⟨_, rfl⟩
  | none =>
      right
      rw [w.ops_spawn_of_none hs, hn]
      have hself : Function.update n inst.netns (RelayNamespace.vacant host).spawned inst.netns =
          .occupied { host } := Function.update_self _ _ _
      have hq : Quiet view (view host).ownedRules
          (Function.update n inst.netns (RelayNamespace.vacant host).spawned inst.netns) :=
        ⟨_, hself, ⟨rfl, rfl⟩, Or.inl rfl⟩
      have ht := tried_startSpawned hf c ⟨inst.netns, options, c.startBackoff.retry⟩ hq
      have hfin := c.finish_tryStart w.ops ⟨inst.netns, options, c.startBackoff.retry⟩
        (Function.update n inst.netns (RelayNamespace.vacant host).spawned)
      rw [← hfin] at ht
      exact ht.trans fun j hj => Function.update_of_ne hj _ _

/-- A relay process that is idle is told to start. -/
theorem performed_present_of_idle (hf : w.host.Faithful view) (c : RelayController)
    {call : RelayCall} {k : String} (hk : w.netns? call.pod = some k) {options : RelayOptions}
    (hp : call.intent = .present options) {n : RelayNode σ} {srv : RelayServer σ}
    (hn : n k = .occupied srv) (hi : srv.Idle) :
    Tried view k (srv.owned view) n (c.performed w.ops call n) := by
  obtain ⟨inst, rfl, hl⟩ := w.locate_of_netns? c hk n
  have hq : Quiet view (srv.owned view) (n inst.netns) := ⟨srv, hn, hi, Or.inl rfl⟩
  have ht := tried_start hf hq options
  rw [RelayController.performed, hl, hp]
  simp only [ops_probe, hn, RelayNamespace.probe, hi.serving]
  exact ht

/-- A relay that is serving is left as it is, whatever its options. -/
theorem performed_present_of_serving (w : Surroundings σ) (c : RelayController)
    {call : RelayCall} {k : String} (hk : w.netns? call.pod = some k) {options : RelayOptions}
    (hp : call.intent = .present options) {n : RelayNode σ} {srv : RelayServer σ}
    (hn : n k = .occupied srv) (hs : srv.serving = true) :
    c.performed w.ops call n = (.ok (), n) := by
  obtain ⟨inst, rfl, hl⟩ := w.locate_of_netns? c hk n
  rw [RelayController.performed, hl, hp]
  simp only [ops_probe, hn, RelayNamespace.probe, hs, if_true]
  rfl

end Surroundings

end WafControl
