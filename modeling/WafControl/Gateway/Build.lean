import WafControl.Gateway.Resources
import WafControl.Policy.Protection

/-!
# Resources from protections

Each protection that can be routed gives one listener, one cluster and one route configuration,
all named after its application. A protection can be routed when its application has an ingress
whose listener port has been allocated and is not taken by an earlier protection; the others are
left out, so that one odd protection never keeps the rest from being served.

`kept` is the list of those protections' applications and ingresses, and `build` maps it three
times. `upstreamHosts` is the set of hosts that protections lead to, whatever their ports.
-/

namespace WafControl

/-- The settings that every gateway resource shares. -/
structure GatewayConfig where
  /-- Without settings, listeners carry no WAF filter. -/
  waf : Option WafSettings := some .standard
  connectTimeout : Duration := .ofSeconds 20
  deriving DecidableEq, Repr

namespace Build

/-- The application and ingress of a protection whose listener port has been allocated. -/
def eligible? (p : Protection) : Option (Application × Ingress) :=
  p.ingress?.filter fun found => found.2.proxyListenerPort != 0

/-- The routable applications in order. `taken` holds the ports of those before. -/
def keptFrom (taken : List UInt16) : List Protection → List (Application × Ingress)
  | [] => []
  | p :: ps =>
    match eligible? p with
    | none => keptFrom taken ps
    | some found =>
      if found.2.proxyListenerPort ∈ taken then keptFrom taken ps
      else found :: keptFrom (found.2.proxyListenerPort :: taken) ps

def kept (ps : List Protection) : List (Application × Ingress) := keptFrom [] ps

def listener (config : GatewayConfig) (app : Application) (ingress : Ingress) : Listener :=
  { name := app.name, port := ingress.proxyListenerPort, routeConfig := app.name,
    waf := config.waf }

def cluster (config : GatewayConfig) (app : Application) (ingress : Ingress) : Cluster :=
  { name := app.name, host := ingress.upstreamHost, port := ingress.upstreamPort,
    connectTimeout := config.connectTimeout }

/-- One virtual host for the ingress host, all of whose requests go to the cluster. -/
def routeConfig (app : Application) (ingress : Ingress) : RouteConfig :=
  { name := app.name
    virtualHosts := [
      { name := app.name
        domains := [ingress.host]
        routes := [{ name := app.name, pathPrefix := "/", cluster := app.name }] }] }

end Build

/-- The resources of the routable protections. -/
def build (config : GatewayConfig) (ps : List Protection) : Resources :=
  { listeners := (Build.kept ps).map fun found => Build.listener config found.1 found.2
    clusters := (Build.kept ps).map fun found => Build.cluster config found.1 found.2
    routes := (Build.kept ps).map fun found => Build.routeConfig found.1 found.2 }

/-- Puts a string into an ascending list, unless it is there. -/
def insertSorted (s : String) : List String → List String
  | [] => [s]
  | t :: ts =>
    if s = t then t :: ts
    else if s < t then s :: t :: ts
    else t :: insertSorted s ts

/-- The hosts that the first ingresses of protections lead to, ascending and without repetition.
An empty host is none. -/
def upstreamHosts (ps : List Protection) : List String :=
  (ps.filterMap fun p => p.ingress?.map fun found => found.2.upstreamHost).foldl
    (fun hosts h => if h = "" then hosts else insertSorted h hosts) []

end WafControl
