import WafControl.Policy.Filter
import WafControl.Rpc.Status

/-!
# The policy store's messages

The store's messages have wider numbers than the domain. Reading them narrows each number without
ever truncating it: a port or a paranoia level that does not fit counts as zero, and a mode that is
none of the known ones as unspecified. Everything else keeps its value, its number and its order.

`StoreRequest` is what a client sends and `StoreReply` how a server may answer; `versionResult` and
`listResult` read the answers.
-/

namespace WafControl

namespace Wire

structure ModSec where
  protectionMode : Int := 0
  paranoiaLevel : Int := 0
  deriving DecidableEq, Repr

/-- The wanted state of the engines; it may say nothing. -/
structure DesiredState where
  modSec : Option ModSec := none
  deriving DecidableEq, Repr

structure ContainerPort where
  number : UInt32 := 0
  name : String := ""
  proxyListenerPort : UInt32 := 0
  deriving DecidableEq, Repr

structure Upstream where
  svcFqdn : String := ""
  containerIps : List String := []
  containerPorts : List ContainerPort := []
  routeType : String := ""
  deriving DecidableEq, Repr

structure Ingress where
  name : String := ""
  namespaceName : String := ""
  host : String := ""
  path : String := ""
  port : UInt32 := 0
  upstreamHost : String := ""
  upstreamPort : UInt32 := 0
  proxyListenerPort : UInt32 := 0
  upstream : Option Upstream := none
  deriving DecidableEq, Repr

structure Application where
  id : UInt32 := 0
  name : String := ""
  ingresses : List Ingress := []
  deriving DecidableEq, Repr

structure Protection where
  id : UInt32 := 0
  applicationId : UInt32 := 0
  protectionMode : Int := 0
  desiredState : Option DesiredState := none
  application : Option Application := none
  deriving DecidableEq, Repr

/-- A port that needs more than 16 bits counts as zero. -/
def port (n : UInt32) : UInt16 := if n.toNat < 65536 then n.toNat.toUInt16 else 0

/-- A level outside of 0 to 255 counts as zero. -/
def level (n : Int) : UInt8 := if 0 ≤ n ∧ n < 256 then n.toNat.toUInt8 else 0

/-- A number that names no mode counts as unspecified. -/
def mode (n : Int) : Mode := if n = 1 then .on else if n = 2 then .off else .unspecified

def modeNumber : Mode → Int
  | .unspecified => 0
  | .on => 1
  | .off => 2

theorem mode_modeNumber (m : Mode) : mode (modeNumber m) = m := by cases m <;> rfl

def ModSec.narrow (m : ModSec) : WafControl.ModSec := ⟨mode m.protectionMode, level m.paranoiaLevel⟩

def ContainerPort.narrow (p : ContainerPort) : WafControl.ContainerPort :=
  ⟨Wire.port p.number, p.name, Wire.port p.proxyListenerPort⟩

def Upstream.narrow (u : Upstream) : WafControl.Upstream :=
  ⟨u.svcFqdn, u.containerIps, u.containerPorts.map ContainerPort.narrow, u.routeType⟩

def Ingress.narrow (i : Ingress) : WafControl.Ingress :=
  { name := i.name, namespaceName := i.namespaceName, host := i.host, path := i.path,
    port := Wire.port i.port, upstreamHost := i.upstreamHost,
    upstreamPort := Wire.port i.upstreamPort,
    proxyListenerPort := Wire.port i.proxyListenerPort,
    upstream := i.upstream.map Upstream.narrow }

def Application.narrow (a : Application) : WafControl.Application :=
  ⟨a.id, a.name, a.ingresses.map Ingress.narrow⟩

def Protection.narrow (p : Protection) : WafControl.Protection :=
  { id := p.id, applicationId := p.applicationId, mode := mode p.protectionMode,
    modSec := (p.desiredState.bind DesiredState.modSec).map ModSec.narrow,
    application := p.application.map Application.narrow }

end Wire

/-- The options of a listing. A field that is absent does not narrow it. -/
structure ListOptions where
  protectionMode : Option Int := none
  modSecMode : Option Int := none
  includeApps : Option Bool := none
  upstreamHost : Option String := none
  deriving DecidableEq, Repr

/-- What a client asks the store. -/
inductive StoreRequest where
  /-- The version token of the collection with that number. -/
  | version (typeId : Int)
  | list (options : Option ListOptions)
  deriving DecidableEq, Repr

/-- How a store may answer. -/
inductive StoreReply where
  | version (token : String)
  | protections (ps : List Wire.Protection)
  /-- A message without any field. -/
  | blank
  | status (code : Int) (message : String)
  deriving DecidableEq, Repr

namespace StoreRequest

/-- The number of the protections among the versioned collections. -/
def protectionType : Int := 1

/-- The question for the version token of the protections. -/
def ofVersion : StoreRequest := .version protectionType

/-- The question for the protections that a filter selects. -/
def ofFilter (f : Filter) : StoreRequest :=
  .list (some
    { protectionMode := f.mode.map Wire.modeNumber
      modSecMode := f.modSecMode.map Wire.modeNumber
      includeApps := some f.includeApplications
      upstreamHost := f.upstreamHost })

end StoreRequest

namespace StoreReply

/-- The token in the answer to the question for a version. -/
def versionResult : StoreReply → Except Status String
  | version token => .ok token
  | protections _ => .ok ""
  | blank => .ok ""
  | status code message => .error (Status.received code message)

/-- The protections in the answer to the question for a listing. -/
def listResult : StoreReply → Except Status (List Protection)
  | version _ => .ok []
  | protections ps => .ok (ps.map Wire.Protection.narrow)
  | blank => .ok []
  | status code message => .error (Status.received code message)

end StoreReply

end WafControl
