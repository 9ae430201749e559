import WafControl.Json.Reader
import WafControl.Rpc.Status
import WafControl.Text.Path
import WafControl.Workload.Container

/-!
# Finding the network namespace of a container

A container runtime answers a verbose status request with a JSON document about the container. The
network namespace is the first namespace of the type `network` in its runtime spec. All of the
document that is read has to be of the right form, also behind the namespace that is found.

A controller that runs in a container itself sees the host's file system under a root; the path of
the namespace is then taken below that root.
-/

namespace WafControl

structure RuntimeNamespace where
  kind : String
  path : Option String := none
  deriving DecidableEq, Repr

/-- Why no network namespace was found. -/
inductive NetnsLookupError where
  /-- The runtime cannot be reached. -/
  | unreachable (runtime : ContainerRuntime) (cause : String)
  /-- The runtime refused the request. -/
  | refused (status : Status)
  | missingInfo
  /-- The document is not of the right form. -/
  | invalidSpec
  /-- The document names no network namespace with a path. -/
  | missingNetns
  deriving DecidableEq, Repr

namespace RuntimeInfo

def namespace? (j : Json) : Option RuntimeNamespace := do
  match ← j.record? ["type", "path"] with
  | [some kind, path] => pure { kind := ← kind.text?, path := ← Json.optional? Json.text? path }
  | _ => none

/-- Reads the namespaces of the Linux part of a spec; there are none where nothing is said. -/
def namespaces? (j : Json) : Option (List RuntimeNamespace) := do
  match ← j.record? ["namespaces"] with
  | [none] => pure []
  | [some (.array xs)] => xs.mapM namespace?
  | _ => none

def spec? (j : Json) : Option (List RuntimeNamespace) := do
  match ← j.record? ["linux"] with
  | [linux] => pure ((← Json.optional? namespaces? linux).getD [])
  | _ => none

def document? (j : Json) : Option (List RuntimeNamespace) := do
  match ← j.record? ["runtimeSpec"] with
  | [some spec] => spec? spec
  | _ => none

/-- The path of the network namespace among others, if it is not empty. -/
def networkPath? (spaces : List RuntimeNamespace) : Option String :=
  ((spaces.find? fun ns => ns.kind == "network").bind RuntimeNamespace.path).filter (· != "")

/-- The path of the network namespace that a document names. -/
def networkNamespace (text : String) : Except NetnsLookupError String :=
  match (Json.parse text).bind document? with
  | none => .error .invalidSpec
  | some spaces =>
    match networkPath? spaces with
    | none => .error .missingNetns
    | some path => .ok path

end RuntimeInfo

namespace HostRoot

/-- Takes slashes, and components that are a single dot, from the front of a path. On the reversed
path it takes them from the end. -/
def dropDots : List Char → List Char
  | '/' :: cs => dropDots cs
  | '.' :: '/' :: cs => dropDots cs
  | ['.'] => []
  | cs => cs

/-- A path below a root. An absolute path loses the slashes and single dots at its ends; a relative
one is kept as it is. -/
def below (root path : String) : String :=
  match path.toList with
  | '/' :: cs => Path.join root (String.ofList (dropDots (dropDots cs).reverse).reverse)
  | _ => Path.join root path

/-- A path as seen by a process for which the host's files are below `root`, if there is one. -/
def rooted (root : Option String) (path : String) : String :=
  match root with
  | some root => below root path
  | none => path

end HostRoot

/-- What is asked of a container runtime. -/
structure ContainerStatusRequest where
  runtime : ContainerRuntime
  containerId : String
  verbose : Bool := true
  deriving DecidableEq, Repr

/-- How a container runtime answers. -/
inductive RuntimeReply where
  /-- The entries of the verbose information. -/
  | info (entries : List (String × String))
  | status (status : Status)
  /-- Nothing listens on the runtime's socket. -/
  | down
  deriving DecidableEq, Repr

namespace NetnsLookupError

/-- The message; the text of an invalid document depends on the reader and has none. -/
def message? : NetnsLookupError → Option String
  | unreachable runtime cause =>
    some ("failed to connect to " ++ runtime.name ++ " at " ++ runtime.socket ++ ": " ++ cause)
  | refused status => some ("container status request failed: " ++ status.display)
  | missingInfo => some "container status has no verbose info"
  | invalidSpec => none
  | missingNetns => some "runtime spec has no network namespace path"

end NetnsLookupError

namespace ContainerRef

/-- Looks up the network namespace of a container with its runtime. Gives the request that the
runtime received, and the path of the namespace below the root. -/
def lookupNetns (c : ContainerRef) (root : Option String) (reply : RuntimeReply) :
    Option ContainerStatusRequest × Except NetnsLookupError String :=
  let request : ContainerStatusRequest := { runtime := c.runtime, containerId := c.id }
  match reply with
  | .down => (none, .error (.unreachable c.runtime "transport error"))
  | .status status => (some request, .error (.refused status))
  | .info entries =>
    (some request,
      match entries.lookup "info" with
      | none => .error .missingInfo
      | some text => (RuntimeInfo.networkNamespace text).map (HostRoot.rooted root))

end ContainerRef

end WafControl
