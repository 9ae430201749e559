import WafControl.Envoy.Messages

/-!
# Reading proxy messages back

The resource that a proxy message was made for. Reading looks only at the fields that the resource
determines, and gives a field that is missing its default.
-/

namespace WafControl.Envoy

open Protobuf

/-- A duration whose seconds are not negative. -/
def readDuration? (m : Message) : Option Duration :=
  let seconds := varint 1 m
  let nanos := varint 2 m
  if 0 ≤ seconds ∧ 0 ≤ nanos then Duration.ofParts? seconds.toNat nanos.toNat else none

/-- The host and the port of an address. -/
def readAddress (m : Message) : String × UInt16 :=
  let socket := message 1 m
  (text 2 socket, (varint 3 socket).toNat.toUInt16)

/-- The settings of a typed part, if it has the name. -/
def readTyped? (name : String) (m : Message) : Option Message :=
  if text 1 m = name then some (message 2 (message 4 m)) else none

def readWaf (m : Message) : WafSettings := ⟨text 1 m, text 2 m, text 3 m⟩

def readListener (m : Message) : Listener :=
  let manager := message 2 (message 4 (message 3 (message 3 m)))
  { name := text 1 m
    port := (readAddress (message 2 m)).2
    routeConfig := text 2 (message 3 manager)
    waf := ((messages 5 manager).findSome? (readTyped? wafFilterName)).map readWaf }

def readCluster? (m : Message) : Option Cluster := do
  let timeout ← readDuration? (message 4 m)
  let endpoint := message 1 (message 2 (message 2 (message 33 m)))
  let (host, port) := readAddress (message 1 endpoint)
  pure { name := text 1 m, host, port, connectTimeout := timeout }

def readRoute? (m : Message) : Option Route := do
  let timeout ← readDuration? (message 8 (message 2 m))
  pure
    { name := text 14 m
      pathPrefix := text 1 (message 1 m)
      cluster := text 1 (message 2 m)
      timeout }

def readVirtualHost? (m : Message) : Option VirtualHost := do
  let routes ← (messages 3 m).mapM readRoute?
  pure { name := text 1 m, domains := texts 2 m, routes }

def readRouteConfig? (m : Message) : Option RouteConfig := do
  let virtualHosts ← (messages 2 m).mapM readVirtualHost?
  pure { name := text 1 m, virtualHosts }

end WafControl.Envoy
