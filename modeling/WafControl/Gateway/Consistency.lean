import WafControl.Gateway.Resources

/-!
# Consistency of resources

Resources are consistent when clusters, route configurations and listeners have names of their
own, no two listeners bind one port, and every reference leads to a resource of the bundle. The
check goes through clusters, then route configurations, then listeners, and names the first fault
it meets.
-/

namespace WafControl

inductive ResourceKind where
  | cluster
  | routeConfig
  | listener
  deriving DecidableEq, Repr

def ResourceKind.label : ResourceKind → String
  | cluster => "cluster"
  | routeConfig => "route configuration"
  | listener => "listener"

/-- Why resources do not fit together. -/
inductive Inconsistency where
  | unknownRouteConfig (listener routeConfig : String)
  | unknownCluster (route cluster : String)
  | duplicate (kind : ResourceKind) (name : String)
  | portConflict (first second : String) (port : UInt16)
  deriving DecidableEq, Repr

def Inconsistency.message : Inconsistency → String
  | unknownRouteConfig listener routeConfig =>
    "listener " ++ listener ++ " references unknown route configuration " ++ routeConfig
  | unknownCluster route cluster => "route " ++ route ++ " references unknown cluster " ++ cluster
  | duplicate kind name => "duplicate " ++ kind.label ++ " " ++ name
  | portConflict first second port =>
    "listeners " ++ first ++ " and " ++ second ++ " both bind port " ++ toString port.toNat

namespace Resources

/-- The first name that stands in a list for the second time, or is among the names before it. -/
def firstRepeated (seen : List String) : List String → Option String
  | [] => none
  | n :: ns => if n ∈ seen then some n else firstRepeated (n :: seen) ns

/-- The first route whose cluster is none of the given names. -/
def firstUnresolved (clusters : List String) (routes : List Route) : Option Route :=
  routes.find? fun r => decide (r.cluster ∉ clusters)

/-- The first fault in a list of route configurations. -/
def routeFault (clusters seen : List String) : List RouteConfig → Option Inconsistency
  | [] => none
  | rc :: rcs =>
    if rc.name ∈ seen then some (.duplicate .routeConfig rc.name)
    else
      match firstUnresolved clusters rc.routes with
      | some r => some (.unknownCluster r.name r.cluster)
      | none => routeFault clusters (rc.name :: seen) rcs

/-- The first fault in a list of listeners, where `seen` holds those before. -/
def listenerFault (routeConfigs : List String) (seen : List Listener) :
    List Listener → Option Inconsistency
  | [] => none
  | l :: ls =>
    if l.name ∈ seen.map Listener.name then some (.duplicate .listener l.name)
    else
      match seen.find? fun m => m.port == l.port with
      | some m => some (.portConflict m.name l.name l.port)
      | none =>
        if l.routeConfig ∈ routeConfigs then listenerFault routeConfigs (l :: seen) ls
        else some (.unknownRouteConfig l.name l.routeConfig)

/-- The first fault of the resources, if there is one. -/
def fault? (r : Resources) : Option Inconsistency :=
  match firstRepeated [] (r.clusters.map Cluster.name) with
  | some name => some (.duplicate .cluster name)
  | none =>
    match routeFault (r.clusters.map Cluster.name) [] r.routes with
    | some fault => some fault
    | none => listenerFault (r.routes.map RouteConfig.name) [] r.listeners

def consistent (r : Resources) : Bool := r.fault?.isNone

end Resources

end WafControl
