import WafControl.Relay.Failure
import WafControl.Relay.Metrics
import WafControl.Time.Backoff

/-!
# Driving the relay of a pod

A relay controller brings the relay of a pod to be present or absent. Every reconciliation finds
the pod's network namespace anew and probes the relay there, and then does what is missing. A relay
that was just spawned needs a moment until it answers, so its start is tried a few times under a
backoff policy.

The node is a record of operations over a state of any type. A reconciliation proceeds until it is
finished or has to wait before the next start; `reconcile` runs it to its end and lists its waits.
-/

namespace WafControl

/-- What a node offers to a relay controller. -/
structure NodeOps (σ : Type) where
  /-- The container behind a pod. -/
  container : PodRef → σ → Except Failure ContainerRef × σ
  /-- The network namespace that a container runs in. -/
  networkNamespace : ContainerRef → σ → Except Failure String × σ
  probe : String → σ → ProbeState × σ
  /-- Starts a relay process, which comes up idle. -/
  spawn : RelayInstance → σ → Except Failure Unit × σ
  start : String → RelayOptions → σ → Except Failure Unit × σ
  stop : String → σ → Except Failure Unit × σ

/-- How relays are driven: the node, and how the start of a spawned relay is tried. -/
structure RelayController where
  nodeName : String
  startBackoff : Backoff := .exponential (.ofMillis 100) (.ofSeconds 2)
  startAttempts : UInt32 := 8
  deriving DecidableEq, Repr

/-- The start of a spawned relay that is still to succeed, and the attempts made so far. -/
structure PendingStart where
  netns : String
  options : RelayOptions
  retry : Retry
  deriving DecidableEq, Repr

/-- How far a reconciliation has come. -/
inductive Progress where
  | finished (outcome : Except Failure Unit)
  /-- The start is to be tried again after the delay. -/
  | waiting (delay : Duration) (start : PendingStart)

/-- A node together with the counts of the controller that drives it. -/
structure Supervised (σ : Type) where
  node : σ
  counts : RelayCounts := {}

namespace RelayController

variable {σ : Type}

/-- The controller that tries a start so often, and at least once. -/
def withStart (c : RelayController) (policy : Backoff) (attempts : UInt32) : RelayController :=
  { c with startBackoff := policy, startAttempts := max attempts 1 }

/-- The relay instance of a pod. -/
def locate (c : RelayController) (ops : NodeOps σ) (pod : PodRef) (s : σ) :
    Except Failure RelayInstance × σ :=
  match ops.container pod s with
  | (.error e, s) => (.error e, s)
  | (.ok container, s) =>
    match ops.networkNamespace container s with
    | (.error e, s) =>
      (.error (e.within ("failed to resolve network namespace of " ++ container.display)), s)
    | (.ok netns, s) => (.ok { pod, container, netns, nodeName := c.nodeName }, s)

/-- Tries the start of a spawned relay once. -/
def tryStart (c : RelayController) (ops : NodeOps σ) (p : PendingStart) (s : σ) : Progress × σ :=
  match ops.start p.netns p.options s with
  | (.ok (), s) => (.finished (.ok ()), s)
  | (.error e, s) =>
    if p.retry.attempts + 1 < c.startAttempts.toNat then
      (.waiting p.retry.delay { p with retry := p.retry.advance }, s)
    else (.finished (.error (e.within "relay did not accept StartRelay")), s)

/-- Brings the relay in a namespace to be present, given what a probe found. -/
def present (c : RelayController) (ops : NodeOps σ) (inst : RelayInstance)
    (options : RelayOptions) (found : ProbeState) (s : σ) : Progress × σ :=
  match found with
  | .active => (.finished (.ok ()), s)
  | .unknown => (.finished (.ok ()), s)
  | .idle =>
    let (outcome, s) := ops.start inst.netns options s
    (.finished outcome, s)
  | .absent =>
    match ops.spawn inst s with
    | (.error e, s) => (.finished (.error (e.within "failed to spawn relay")), s)
    | (.ok (), s) => c.tryStart ops ⟨inst.netns, options, c.startBackoff.retry⟩ s

/-- Brings the relay in a namespace to be absent, given what a probe found. -/
def absent (ops : NodeOps σ) (inst : RelayInstance) (found : ProbeState) (s : σ) :
    Progress × σ :=
  match found with
  | .absent => (.finished (.ok ()), s)
  | .idle => (.finished (.ok ()), s)
  | .active =>
    let (outcome, s) := ops.stop inst.netns s
    (.finished outcome, s)
  | .unknown =>
    let (outcome, s) := ops.stop inst.netns s
    (.finished outcome, s)

/-- Probes a relay, and counts the probe. -/
def probe (ops : NodeOps σ) (netns : String) (s : Supervised σ) : ProbeState × Supervised σ :=
  let (found, node) := ops.probe netns s.node
  (found, { node, counts := s.counts.probed found })

/-- Counts a reconciliation that is finished. -/
def record (action : RelayAction) (step : Progress × Supervised σ) : Progress × Supervised σ :=
  match step with
  | (.finished outcome, s) =>
    (.finished outcome, { s with counts := s.counts.reconciled action outcome.isOk })
  | (.waiting d p, s) => (.waiting d p, s)

/-- Begins the reconciliation of a pod. -/
def begin (c : RelayController) (ops : NodeOps σ) (call : RelayCall) (s : Supervised σ) :
    Progress × Supervised σ :=
  record call.intent.action <|
    match c.locate ops call.pod s.node with
    | (.error e, node) => (.finished (.error e), { s with node })
    | (.ok inst, node) =>
      let (found, s) := probe ops inst.netns { s with node }
      let (progress, node) :=
        match call.intent with
        | .present options => c.present ops inst options found s.node
        | .absent => absent ops inst found s.node
      (progress, { s with node })

/-- Goes on with a reconciliation after its wait. -/
def resume (c : RelayController) (ops : NodeOps σ) (p : PendingStart) (s : Supervised σ) :
    Progress × Supervised σ :=
  let (progress, node) := c.tryStart ops p s.node
  record .present (progress, { s with node })

theorem attempts_lt_of_waiting {c : RelayController} {ops : NodeOps σ} {p q : PendingStart}
    {s s' : σ} {d : Duration} (h : c.tryStart ops p s = (.waiting d q, s')) :
    p.retry.attempts < q.retry.attempts ∧ q.retry.attempts < c.startAttempts.toNat := by
  have hlt := c.startAttempts.toNat_lt
  unfold tryStart at h
  split at h
  · cases h
  · split at h
    · rename_i hc
      cases h
      simp only [Retry.advance, Retry.maxAttempts, UInt32.size]
      omega
    · cases h

/-- The starts of a spawned relay until one succeeds or none is left. Gives the outcome and the
waits between the starts. -/
def startSpawned (c : RelayController) (ops : NodeOps σ) (p : PendingStart) (s : σ) :
    Except Failure Unit × List Duration × σ :=
  match _h : c.tryStart ops p s with
  | (.finished outcome, s) => (outcome, [], s)
  | (.waiting d q, s) =>
    let rest := c.startSpawned ops q s
    (rest.1, d :: rest.2.1, rest.2.2)
termination_by c.startAttempts.toNat - p.retry.attempts
decreasing_by
  have := attempts_lt_of_waiting _h
  omega

/-- Runs a reconciliation to its end. Gives the outcome and its waits. -/
def reconcile (c : RelayController) (ops : NodeOps σ) (call : RelayCall) (s : Supervised σ) :
    Except Failure Unit × List Duration × Supervised σ :=
  match c.begin ops call s with
  | (.finished outcome, s) => (outcome, [], s)
  | (.waiting d p, s) =>
    let (outcome, delays, node) := c.startSpawned ops p s.node
    (outcome, d :: delays,
      { node, counts := s.counts.reconciled call.intent.action outcome.isOk })

end RelayController

end WafControl
