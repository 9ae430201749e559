import WafControl.Time.Duration

/-!
# Gateway resources

What a gateway proxy is configured with: listeners, clusters and route configurations, which refer
to each other by name. A snapshot is a bundle of them under a version.
-/

namespace WafControl

/-- Settings of the WAF filter that a gateway loads. -/
structure WafSettings where
  libraryId : String := ""
  libraryPath : String := ""
  pluginName : String := ""
  deriving DecidableEq, Repr

/-- The WAF filter a gateway loads unless told otherwise. -/
def WafSettings.standard : WafSettings :=
  ⟨"wafie-v1", "/usr/local/lib/wafie-modsec.so", "wafie"⟩

/-- A port the gateway listens on, and the route configuration its requests follow. -/
structure Listener where
  name : String := ""
  port : UInt16 := 0
  routeConfig : String := ""
  waf : Option WafSettings := none
  deriving DecidableEq, Repr

/-- A host that requests are sent on to. -/
structure Cluster where
  name : String := ""
  host : String := ""
  port : UInt16 := 0
  connectTimeout : Duration := .zero
  deriving DecidableEq, Repr

/-- Sends the requests under a path to a cluster. A timeout of zero is none. -/
structure Route where
  name : String := ""
  pathPrefix : String := ""
  cluster : String := ""
  timeout : Duration := .zero
  deriving DecidableEq, Repr

/-- The routes of some domains. -/
structure VirtualHost where
  name : String := ""
  domains : List String := []
  routes : List Route := []
  deriving DecidableEq, Repr

/-- What a listener's requests follow. -/
structure RouteConfig where
  name : String := ""
  virtualHosts : List VirtualHost := []
  deriving DecidableEq, Repr

/-- All routes of a route configuration, in order. -/
def RouteConfig.routes (rc : RouteConfig) : List Route := rc.virtualHosts.flatMap VirtualHost.routes

structure Resources where
  listeners : List Listener := []
  clusters : List Cluster := []
  routes : List RouteConfig := []
  deriving DecidableEq, Repr

structure Snapshot where
  version : String
  resources : Resources
  deriving DecidableEq, Repr

end WafControl
