import WafControl.Net.RequestTarget
import WafControl.Workload.EndpointSlice
import WafControl.Workload.PodDocument

/-!
# Looking up the container of a pod

The container behind a pod is asked for with one request to the cluster, which has five seconds to
answer. A pod without a name is not asked for.
-/

namespace WafControl

/-- How the cluster answers a request. -/
inductive ClusterReply where
  /-- With a status and a body, after so many milliseconds. -/
  | answer (status : Nat) (body : String) (delay : Nat)
  | silence
  | unreachable
  deriving DecidableEq, Repr

/-- Why no container was found. -/
inductive PodLookupError where
  | timedOut
  | failed
  | notStarted
  | badContainer (e : ContainerRefError)
  deriving DecidableEq, Repr

namespace PodLookupError

def message : PodLookupError → String
  | timedOut => "pod lookup timed out"
  | failed => "pod lookup failed"
  | notStarted => "pod has no started containers"
  | badContainer e => e.message

end PodLookupError

/-- A lookup: the path it asked for, how many milliseconds it took, and what it found. -/
structure PodLookup where
  path : Option String
  elapsed : Nat
  result : Except PodLookupError ContainerRef

namespace PodLookup

/-- How long the cluster has to answer, in milliseconds. -/
def timeout : Nat := 5000

/-- Whether an answer with a status says that the request or the cluster failed. -/
def isFailure (status : Nat) : Bool := decide (400 ≤ status) && decide (status < 600)

def target (pod : PodRef) : String :=
  "/api/v1/namespaces/" ++ pod.namespaceName ++ "/pods/" ++ pod.name

/-- The container that a body names. -/
def container (body : String) : Except PodLookupError ContainerRef :=
  match PodDocument.read? body with
  | none => .error .failed
  | some pod =>
    match PodDocument.containerId? pod with
    | none => .error .notStarted
    | some id => (ContainerRef.parse id).mapError .badContainer

/-- What an answer comes to. -/
def ofAnswer (status : Nat) (body : String) : Except PodLookupError ContainerRef :=
  if isFailure status then .error .failed else container body

/-- Looks up the container of a pod in a cluster that answers so. -/
def run (pod : PodRef) (reply : ClusterReply) : PodLookup :=
  match if pod.name = "" then none else RequestTarget.path? (target pod) with
  | none => ⟨none, 0, .error .failed⟩
  | some path =>
    match reply with
    | .silence => ⟨some path, timeout, .error .timedOut⟩
    | .unreachable => ⟨some path, 0, .error .failed⟩
    | .answer status body delay =>
      if timeout < delay then ⟨some path, timeout, .error .timedOut⟩
      else ⟨some path, delay, ofAnswer status body⟩

end PodLookup

end WafControl
