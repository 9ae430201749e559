import WafControl.Gateway.Resources
import WafControl.Wire.Protobuf

/-!
# Gateway resources as proxy messages

The messages that configure an Envoy proxy: a listener with one HTTP connection manager, a cluster
with one endpoint, and a route configuration. Each carries all of the resource; what the resource
does not say is the same for every gateway.

The HTTP filters of a listener end with the router; the WAF filter, when there is one, runs before
it.
-/

namespace WafControl.Envoy

open Protobuf

/-! ### Names -/

def connectionManagerName : String := "envoy.filters.network.http_connection_manager"

def wafFilterName : String := "envoy.filters.http.golang"

def routerFilterName : String := "envoy.filters.http.router"

def accessLogName : String := "envoy.access_loggers.stdout"

def connectionManagerType : String :=
  "type.googleapis.com/envoy.extensions.filters.network.http_connection_manager.v3.HttpConnectionManager"

def wafFilterType : String :=
  "type.googleapis.com/envoy.extensions.filters.http.golang.v3alpha.Config"

def routerFilterType : String :=
  "type.googleapis.com/envoy.extensions.filters.http.router.v3.Router"

def accessLogType : String :=
  "type.googleapis.com/envoy.extensions.access_loggers.stream.v3.StdoutAccessLog"

/-! ### Common parts -/

/-- Seconds as a signed 64-bit number: those that need the 64th bit become negative. -/
def signedSeconds (seconds : Nat) : Int :=
  if seconds < UInt64.size / 2 then seconds else (seconds : Int) - UInt64.size

def duration (d : Duration) : Message :=
  optVarint 1 (signedSeconds d.seconds) ++ optVarint 2 d.subNanos

/-- A TCP address. The port is a choice of fields, so that port zero is written too. -/
def tcpAddress (host : String) (port : UInt16) : Message :=
  [.message 1 (optText 2 host ++ [.varint 3 port.toNat])]

/-! ### Listeners -/

/-- A named part whose settings are a message of any type in field 4. -/
def typedConfig (name typeUrl : String) (settings : Message) : Message :=
  optText 1 name ++ [.message 4 (anyOf typeUrl settings)]

def wafConfig (waf : WafSettings) : Message :=
  optText 1 waf.libraryId ++ optText 2 waf.libraryPath ++ optText 3 waf.pluginName

def wafFilter (waf : WafSettings) : Message :=
  typedConfig wafFilterName wafFilterType (wafConfig waf)

def routerFilter : Message := typedConfig routerFilterName routerFilterType []

/-- The HTTP filters, in the order in which they run. -/
def httpFilters (waf : Option WafSettings) : List Message :=
  (waf.map wafFilter).toList ++ [routerFilter]

def accessLog : Message := typedConfig accessLogName accessLogType []

/-- Where the routes come from: over the aggregated stream, in version 3 of the API. -/
def routeSource (routeConfig : String) : Message :=
  .message 1 [.message 3 [], .varint 6 2] :: optText 2 routeConfig

def connectionManager (routeConfig : String) (waf : Option WafSettings) : Message :=
  [.text 2 "http", .message 3 (routeSource routeConfig)] ++
    (httpFilters waf).map (.message 5) ++
    [.message 13 accessLog, .message 15 [.varint 1 1], .message 23 [.text 1 "websocket"]]

/-- A listener on all addresses of the gateway. -/
def listener (l : Listener) : Message :=
  optText 1 l.name ++
    [.message 2 (tcpAddress "0.0.0.0" l.port),
      .message 3 [.message 3
        (typedConfig connectionManagerName connectionManagerType
          (connectionManager l.routeConfig l.waf))]]

/-! ### Clusters -/

/-- The one endpoint of a cluster. -/
def loadAssignment (c : Cluster) : Message :=
  optText 1 c.name ++
    [.message 2 [.message 2 [.message 1 [.message 1 (tcpAddress c.host c.port)]]]]

/-- A cluster whose host is resolved by name, to IPv4 addresses only. -/
def cluster (c : Cluster) : Message :=
  optText 1 c.name ++
    [.varint 2 1, .message 4 (duration c.connectTimeout), .varint 17 1,
      .message 33 (loadAssignment c)]

/-! ### Route configurations -/

def route (r : Route) : Message :=
  [.message 1 [.text 1 r.pathPrefix],
      .message 2 [.text 1 r.cluster, .message 8 (duration r.timeout)]] ++
    optText 14 r.name

def virtualHost (vh : VirtualHost) : Message :=
  optText 1 vh.name ++ vh.domains.map (.text 2) ++ (vh.routes.map route).map (.message 3)

def routeConfig (rc : RouteConfig) : Message :=
  optText 1 rc.name ++ (rc.virtualHosts.map virtualHost).map (.message 2)

end WafControl.Envoy
