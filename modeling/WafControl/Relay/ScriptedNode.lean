import WafControl.Relay.Controller

/-!
# A scripted node

A node whose pods, relays and failures are given, and which records what is asked of it. Relays are
known by their network namespace, which is named after the container's id, and each is forwarding
or not.
-/

namespace WafControl

/-- An operation asked of a scripted node. -/
inductive NodeCall where
  | probe (netns : String) (found : ProbeState)
  | spawn (inst : RelayInstance)
  | start (netns : String) (options : RelayOptions)
  | stop (netns : String)
  deriving DecidableEq, Repr

structure ScriptedNode where
  /-- The container id of each pod, by the pod's display. -/
  pods : Table String String := {}
  /-- Whether the relay of a namespace forwards. -/
  relays : Table String Bool := {}
  /-- Probes do not learn anything. -/
  unknown : Bool := false
  /-- How many starts are still refused. -/
  notReady : Nat := 0
  netnsError : Option String := none
  spawnError : Option String := none
  stopError : Option String := none
  /-- The operations since the record was last taken, latest first. -/
  recorded : List NodeCall := []
  deriving DecidableEq, Repr

/-- A change of a scripted node; only the fields that are set change. -/
structure NodeChange where
  pods : Option (Table String String) := none
  relays : Option (Table String Bool) := none
  unknown : Option Bool := none
  notReady : Option Nat := none
  netnsError : Option (Option String) := none
  spawnError : Option (Option String) := none
  stopError : Option (Option String) := none
  deriving DecidableEq, Repr

namespace ScriptedNode

def change (n : ScriptedNode) (ch : NodeChange) : ScriptedNode :=
  { n with
    pods := ch.pods.getD n.pods
    relays := ch.relays.getD n.relays
    unknown := ch.unknown.getD n.unknown
    notReady := ch.notReady.getD n.notReady
    netnsError := ch.netnsError.getD n.netnsError
    spawnError := ch.spawnError.getD n.spawnError
    stopError := ch.stopError.getD n.stopError }

def record (n : ScriptedNode) (call : NodeCall) : ScriptedNode :=
  { n with recorded := call :: n.recorded }

/-- Takes the record, in the order of the operations. -/
def takeRecorded (n : ScriptedNode) : List NodeCall × ScriptedNode :=
  (n.recorded.reverse, { n with recorded := [] })

def container (n : ScriptedNode) (pod : PodRef) : Except Failure ContainerRef :=
  match n.pods.find? pod.display with
  | none => .error ⟨"pod " ++ pod.display ++ " not found", []⟩
  | some id =>
    match ContainerRef.parse id with
    | .ok container => .ok container
    | .error e => .error ⟨e.message, []⟩

def networkNamespace (n : ScriptedNode) (container : ContainerRef) : Except Failure String :=
  match n.netnsError with
  | some e => .error ⟨e, []⟩
  | none => .ok ("/var/run/netns/cni-" ++ container.id)

/-- The state of the relay in a namespace. -/
def found (n : ScriptedNode) (netns : String) : ProbeState :=
  if n.unknown then .unknown
  else
    match n.relays.find? netns with
    | none => .absent
    | some false => .idle
    | some true => .active

def spawn (inst : RelayInstance) (n : ScriptedNode) : Except Failure Unit × ScriptedNode :=
  let n := n.record (.spawn inst)
  match n.spawnError with
  | some e => (.error ⟨e, []⟩, n)
  | none => (.ok (), { n with relays := n.relays.insert inst.netns false })

def start (netns : String) (options : RelayOptions) (n : ScriptedNode) :
    Except Failure Unit × ScriptedNode :=
  let n := n.record (.start netns options)
  if n.notReady ≠ 0 then
    (.error ⟨"connection refused", []⟩, { n with notReady := n.notReady - 1 })
  else if n.relays.contains netns then
    (.ok (), { n with relays := n.relays.insert netns true })
  else (.error ⟨"connection refused", []⟩, n)

def stop (netns : String) (n : ScriptedNode) : Except Failure Unit × ScriptedNode :=
  let n := n.record (.stop netns)
  match n.stopError with
  | some e => (.error ⟨e, []⟩, n)
  | none =>
    if n.relays.contains netns then (.ok (), { n with relays := n.relays.insert netns false })
    else (.ok (), n)

def ops : NodeOps ScriptedNode where
  container := fun pod n => (n.container pod, n)
  networkNamespace := fun container n => (n.networkNamespace container, n)
  probe := fun netns n => (n.found netns, n.record (.probe netns (n.found netns)))
  spawn := spawn
  start := start
  stop := stop

end ScriptedNode

end WafControl
