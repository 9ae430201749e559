import WafControl.Workload.Container
import WafControl.Workload.PodShape

/-!
# Pod documents

The cluster describes a pod by a JSON document. What is needed of it is the id of its first
container, but a document whose known parts are not of the right form is no pod document at all.
-/

namespace WafControl

namespace PodDocument

/-- The last value of a member that is there and not null. -/
def member? (key : String) : Json → Option Json
  | .object members => (Json.valuesOf key members).getLast?.filter fun j => !j.isNull
  | _ => none

/-- Whether a member that tells what an object is, wherever it is there, holds a given text. -/
def isNamed (key value : String) : Json → Bool
  | .object members => (Json.valuesOf key members).all fun j => j.text? == some value
  | _ => false

/-- The document, if it is a pod's. -/
def read? (text : String) : Option Json :=
  (Json.parse text).filter fun j =>
    isNamed "apiVersion" "v1" j && isNamed "kind" "Pod" j && Shape.pod.admits j

/-- The id of the pod's first container, if that has been started. -/
def containerId? (pod : Json) : Option String := do
  let status ← member? "status" pod
  match ← member? "containerStatuses" status with
  | .array (first :: _) => (← member? "containerID" first).text?
  | _ => none

end PodDocument

end WafControl
