import WafControl.Envoy.Messages

/-!
# Discovery messages

Proxies are configured in types of resources, each named by a URL. A proxy requests the resources
of a type, by name or all of them, and a response carries them under the version of the snapshot
they come from and a nonce, which the proxy sends back when it accepts or rejects the response.

Clusters carry their endpoints, and there are no secrets and no runtime layers, so that responses
of these three types hold no resources.
-/

namespace WafControl.Discovery

/-- The types of resources that can be requested. -/
inductive ResourceType where
  | listener
  | cluster
  | route
  | endpoint
  | secret
  | runtime
  deriving DecidableEq, Repr

namespace ResourceType

def url : ResourceType → String
  | listener => "type.googleapis.com/envoy.config.listener.v3.Listener"
  | cluster => "type.googleapis.com/envoy.config.cluster.v3.Cluster"
  | route => "type.googleapis.com/envoy.config.route.v3.RouteConfiguration"
  | endpoint => "type.googleapis.com/envoy.config.endpoint.v3.ClusterLoadAssignment"
  | secret => "type.googleapis.com/envoy.extensions.transport_sockets.tls.v3.Secret"
  | runtime => "type.googleapis.com/envoy.service.runtime.v3.Runtime"

/-- The name that metrics show. -/
def label : ResourceType → String
  | listener => "listener"
  | cluster => "cluster"
  | route => "route"
  | endpoint => "endpoint"
  | secret => "secret"
  | runtime => "runtime"

/-- All types in the order in which they are pushed: clusters and their endpoints go out before the
listeners and routes that refer to them. -/
def pushOrder : List ResourceType := [cluster, endpoint, listener, route, secret, runtime]

def ofUrl? (s : String) : Option ResourceType := pushOrder.find? fun t => t.url == s

theorem mem_pushOrder (t : ResourceType) : t ∈ pushOrder := by cases t <;> decide

end ResourceType

inductive Resource where
  | listener (l : Listener)
  | cluster (c : Cluster)
  | route (rc : RouteConfig)
  deriving DecidableEq, Repr

namespace Resource

def name : Resource → String
  | listener l => l.name
  | cluster c => c.name
  | route rc => rc.name

def message : Resource → Protobuf.Message
  | listener l => Envoy.listener l
  | cluster c => Envoy.cluster c
  | route rc => Envoy.routeConfig rc

end Resource

/-- What a proxy asks for. -/
structure Request where
  versionInfo : String := ""
  /-- The id of the proxy's node, if the request says it. -/
  node : Option String := none
  names : List String := []
  typeUrl : String := ""
  /-- The nonce of the response that is answered; empty in a request that answers none. -/
  nonce : String := ""
  /-- Why the proxy rejects the response, if it does. -/
  error : Option (Int × String) := none
  deriving DecidableEq, Repr

/-- The resources of one type. -/
structure Response where
  version : String
  type : ResourceType
  nonce : String
  resources : List Resource
  deriving DecidableEq, Repr

/-- Whether a resource of that name is among those asked for; no names ask for all. -/
def wanted (names : List String) (name : String) : Bool :=
  names.isEmpty || names.contains name

/-- All resources of a type in a snapshot, in order. -/
def allOf (r : Resources) : ResourceType → List Resource
  | .listener => r.listeners.map .listener
  | .cluster => r.clusters.map .cluster
  | .route => r.routes.map .route
  | .endpoint => []
  | .secret => []
  | .runtime => []

/-- The resources of a type that are asked for, in the order of the snapshot. -/
def served (r : Resources) (t : ResourceType) (names : List String) : List Resource :=
  (allOf r t).filter fun x => wanted names x.name

end WafControl.Discovery
