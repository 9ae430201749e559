import WafControl.Workload.Container
import WafControl.Workload.EndpointSlice

/-!
# Relay instances

A relay runs in the network namespace of a pod and forwards the pod's traffic to the gateway.
Nothing about it is stored: what it is follows from its pod, and whether it runs is only learned by
probing it.
-/

namespace WafControl

/-- What a relay forwards: traffic for the application's port is redirected to the relay's port,
and goes on to the gateway. -/
structure RelayOptions where
  gatewayFqdn : String := ""
  gatewayPort : UInt16 := 0
  appPort : UInt16 := 0
  relayPort : UInt16 := 0
  deriving DecidableEq, Repr

/-- The relay of a pod: the pod, its container, the network namespace and the node. -/
structure RelayInstance where
  pod : PodRef
  container : ContainerRef
  netns : String
  nodeName : String
  deriving DecidableEq, Repr

/-- What a probe learned about a relay. -/
inductive ProbeState where
  /-- It is up and forwarding. -/
  | active
  /-- It is up and does not forward. -/
  | idle
  /-- Nothing listens where its interface would be. -/
  | absent
  /-- The probe failed in another way, and the relay may be running. -/
  | unknown
  deriving DecidableEq, Repr

/-- What is wanted of the relay of a pod. -/
inductive Intent where
  | present (options : RelayOptions)
  | absent
  deriving DecidableEq, Repr

/-- A call for the relay of a pod. -/
structure RelayCall where
  pod : PodRef
  intent : Intent
  deriving DecidableEq, Repr

end WafControl
