import WafControl.Net.RequestTarget
import WafControl.Settings.CommandLine

/-!
# The controller's settings

The settings are the values of the command line, of two environment variables, and defaults, in
that order. Settings that are accepted may still be refused before the controller starts.
-/

namespace WafControl

/-- What the controller is told to do. -/
structure Settings where
  adminAddr : SocketAddress := { ip := .v4 ⟨0, 0, 0, 0⟩, port := 8080 }
  apiAddr : String := "http://localhost:8080"
  pollIntervalMs : Nat := 1000
  xdsDisabled : Bool := false
  xdsAddr : SocketAddress := { ip := .v4 ⟨0, 0, 0, 0⟩, port := 18000 }
  xdsNodeId : String := "node-1"
  wafDisabled : Bool := false
  wafLibraryId : String := "wafie-v1"
  wafLibraryPath : String := "/usr/local/lib/wafie-modsec.so"
  wafPluginName : String := "wafie"
  relayDisabled : Bool := false
  nodeName : Option String := none
  gatewayFqdn : String := "appsecgw.default.svc"
  relayPort : Nat := 50010
  relayBinary : String := "/usr/local/bin/wafie-relay"
  hostRoot : Option String := none
  deriving DecidableEq, Repr

/-- The environment variables that settings are taken from. -/
structure Environment where
  nodeName : Option String := none
  apiAddr : Option String := none
  deriving DecidableEq, Repr

/-- Why the controller does not start with settings. -/
inductive SettingsRefusal where
  | missingNodeName
  | invalidStoreAddress
  deriving DecidableEq, Repr

def SettingsRefusal.message : SettingsRefusal → String
  | missingNodeName => "--node-name is required unless --relay-disabled is set"
  | invalidStoreAddress => "invalid policy store address"

namespace Settings

def options : OptionTable :=
  [("log-level", .logFilter), ("log-format", .logFormat), ("cluster", .text), ("context", .text),
    ("kubeconfig", .path), ("user", .text), ("as", .text), ("as-group", .text),
    ("kube-api-response-headers-timeout", .timespan), ("admin-addr", .address),
    ("api-addr", .text), ("poll-interval-ms", .count), ("xds-disabled", .flag),
    ("xds-addr", .address), ("xds-node-id", .text), ("waf-disabled", .flag),
    ("waf-library-id", .text), ("waf-library-path", .text), ("waf-plugin-name", .text),
    ("relay-disabled", .flag), ("node-name", .text), ("gateway-fqdn", .text),
    ("relay-port", .port), ("relay-binary", .path), ("host-root", .path)]

def text? (values : Table String OptionValue) (name : String) : Option String :=
  match values.find? name with
  | some (.text s) => some s
  | _ => none

def number? (values : Table String OptionValue) (name : String) : Option Nat :=
  match values.find? name with
  | some (.number n) => some n
  | _ => none

def address? (values : Table String OptionValue) (name : String) : Option SocketAddress :=
  match values.find? name with
  | some (.address a) => some a
  | _ => none

def ofValues (values : Table String OptionValue) (env : Environment) : Settings :=
  let d : Settings := {}
  { adminAddr := (address? values "admin-addr").getD d.adminAddr
    apiAddr := (text? values "api-addr" <|> env.apiAddr).getD d.apiAddr
    pollIntervalMs := (number? values "poll-interval-ms").getD d.pollIntervalMs
    xdsDisabled := values.contains "xds-disabled"
    xdsAddr := (address? values "xds-addr").getD d.xdsAddr
    xdsNodeId := (text? values "xds-node-id").getD d.xdsNodeId
    wafDisabled := values.contains "waf-disabled"
    wafLibraryId := (text? values "waf-library-id").getD d.wafLibraryId
    wafLibraryPath := (text? values "waf-library-path").getD d.wafLibraryPath
    wafPluginName := (text? values "waf-plugin-name").getD d.wafPluginName
    relayDisabled := values.contains "relay-disabled"
    nodeName := text? values "node-name" <|> env.nodeName
    gatewayFqdn := (text? values "gateway-fqdn").getD d.gatewayFqdn
    relayPort := (number? values "relay-port").getD d.relayPort
    relayBinary := (text? values "relay-binary").getD d.relayBinary
    hostRoot := text? values "host-root" }

/-- The settings of a command line in an environment. -/
def ofCommandLine (words : List String) (env : Environment) : Except CommandLineFault Settings :=
  (CommandLine.parse options words).map fun values => ofValues values env

/-- A command line that gives these settings, with every option that has a value. -/
def words (s : Settings) : List String :=
  let option (name value : String) : List String := ["--" ++ name, value]
  let flag (name : String) (given : Bool) : List String := if given then ["--" ++ name] else []
  option "admin-addr" s.adminAddr.display ++ option "api-addr" s.apiAddr ++
    option "poll-interval-ms" (toString s.pollIntervalMs) ++
    flag "xds-disabled" s.xdsDisabled ++ option "xds-addr" s.xdsAddr.display ++
    option "xds-node-id" s.xdsNodeId ++ flag "waf-disabled" s.wafDisabled ++
    option "waf-library-id" s.wafLibraryId ++ option "waf-library-path" s.wafLibraryPath ++
    option "waf-plugin-name" s.wafPluginName ++ flag "relay-disabled" s.relayDisabled ++
    s.nodeName.elim [] (option "node-name") ++ option "gateway-fqdn" s.gatewayFqdn ++
    option "relay-port" (toString s.relayPort) ++ option "relay-binary" s.relayBinary ++
    s.hostRoot.elim [] (option "host-root")

/-- Why the controller does not start. A node name is wanted unless relays are disabled, and the
store's address has to be one. -/
def refusal? (s : Settings) : Option SettingsRefusal :=
  if !s.relayDisabled && s.nodeName.isNone then some .missingNodeName
  else if RequestTarget.isServer s.apiAddr then none
  else some .invalidStoreAddress

end Settings

end WafControl
