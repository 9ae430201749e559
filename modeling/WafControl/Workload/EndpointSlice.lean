/-!
# Endpoint slices

An endpoint slice lists the endpoints behind a service, together with the ports they serve. Three
questions are asked of it: which service it belongs to (`serviceFqdn?`), which TCP port its pods
serve first (`tcpPort?`), and which pods behind it run on a given node (`localPods`).
-/

namespace WafControl

/-- A pod, by its namespace and its name. -/
structure PodRef where
  namespaceName : String
  name : String
  deriving DecidableEq, Repr

/-- The pod as `namespace/name`. -/
def PodRef.display (p : PodRef) : String := p.namespaceName ++ "/" ++ p.name

structure OwnerReference where
  apiVersion : String := ""
  kind : String := ""
  name : String := ""
  uid : String := ""
  deriving DecidableEq, Repr

/-- The object an endpoint stands for. -/
structure TargetReference where
  kind : Option String := none
  name : Option String := none
  namespaceName : Option String := none
  deriving DecidableEq, Repr

/-- One endpoint: its addresses, the node it runs on and the object behind it. -/
structure Endpoint where
  addresses : List String := []
  nodeName : Option String := none
  target : Option TargetReference := none
  deriving DecidableEq, Repr

/-- A port of the endpoints. The number is signed and may lie outside the range of ports. -/
structure EndpointPort where
  name : Option String := none
  port : Option Int := none
  protocol : Option String := none
  deriving DecidableEq, Repr

structure EndpointSlice where
  name : Option String := none
  generateName : Option String := none
  namespaceName : Option String := none
  owners : List OwnerReference := []
  addressType : String := ""
  endpoints : List Endpoint := []
  ports : List EndpointPort := []
  deriving DecidableEq, Repr

/-- The 16-bit value of a number, if it has one. -/
def portOfInt? (n : Int) : Option UInt16 :=
  if 0 ≤ n ∧ n < 65536 then some n.toNat.toUInt16 else none

namespace EndpointPort

/-- A port without a protocol serves TCP. -/
def isTcp (p : EndpointPort) : Bool := p.protocol.getD "TCP" == "TCP"

def number? (p : EndpointPort) : Option UInt16 := p.port.bind portOfInt?

end EndpointPort

/-- The pod behind the endpoint; a target without a namespace is in that of the slice. -/
def Endpoint.pod? (e : Endpoint) (sliceNamespace : Option String) : Option PodRef := do
  let target ← e.target
  if target.kind = some "Pod" then
    let namespaceName ← target.namespaceName <|> sliceNamespace
    let name ← target.name
    pure ⟨namespaceName, name⟩
  else none

namespace EndpointSlice

/-- What the slice is stored under: its namespace and its name, empty where it has none. A slice
without a name goes by the name it was generated from. -/
def key (s : EndpointSlice) : String × String :=
  (s.namespaceName.getD "", (s.name <|> s.generateName).getD "")

/-- The name of the service that owns the slice, as other pods resolve it. Only the first owner
counts, and a slice without a namespace has no such name. -/
def serviceFqdn? (s : EndpointSlice) : Option String := do
  let owner ← s.owners.head?
  if owner.kind = "Service" then
    let namespaceName ← s.namespaceName
    pure (owner.name ++ "." ++ namespaceName ++ ".svc")
  else none

/-- The first TCP port of the slice whose number fits 16 bits. -/
def tcpPort? (s : EndpointSlice) : Option UInt16 :=
  (s.ports.filter EndpointPort.isTcp).findSome? EndpointPort.number?

/-- The pods behind the slice that run on a node, in the order of the endpoints. -/
def localPods (s : EndpointSlice) (node : String) : List PodRef :=
  (s.endpoints.filter fun e => e.nodeName == some node).filterMap (·.pod? s.namespaceName)

end EndpointSlice

end WafControl
