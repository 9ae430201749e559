/-!
# Protections

A protection says how an application is to be protected: whether the WAF is on for it, and which
application it is, once that has been discovered. An application has ingresses; the first of them
fronts it.
-/

namespace WafControl

/-- Whether something is switched on. -/
inductive Mode where
  | unspecified
  | on
  | off
  deriving DecidableEq, Repr, Inhabited

/-- How the ModSecurity engine is to run. -/
structure ModSec where
  mode : Mode := .unspecified
  paranoiaLevel : UInt8 := 0
  deriving DecidableEq, Repr

/-- A port of the containers behind an ingress. -/
structure ContainerPort where
  number : UInt16 := 0
  name : String := ""
  proxyListenerPort : UInt16 := 0
  deriving DecidableEq, Repr

/-- What an ingress leads to, as discovered in the cluster. -/
structure Upstream where
  svcFqdn : String := ""
  containerIps : List String := []
  containerPorts : List ContainerPort := []
  routeType : String := ""
  deriving DecidableEq, Repr

/-- An entrance of an application. The proxy listens for it on `proxyListenerPort`; zero means
that no port has been allocated yet. -/
structure Ingress where
  name : String := ""
  namespaceName : String := ""
  host : String := ""
  path : String := ""
  port : UInt16 := 0
  upstreamHost : String := ""
  upstreamPort : UInt16 := 0
  proxyListenerPort : UInt16 := 0
  upstream : Option Upstream := none
  deriving DecidableEq, Repr

structure Application where
  id : UInt32 := 0
  name : String := ""
  ingresses : List Ingress := []
  deriving DecidableEq, Repr

structure Protection where
  id : UInt32 := 0
  applicationId : UInt32 := 0
  mode : Mode := .unspecified
  modSec : Option ModSec := none
  application : Option Application := none
  deriving DecidableEq, Repr

namespace Protection

/-- The application and the ingress that fronts it, if the application has been discovered and
has one. -/
def ingress? (p : Protection) : Option (Application × Ingress) :=
  p.application.bind fun app => app.ingresses.head?.map fun ingress => (app, ingress)

/-- The upstream host of the first ingress, empty where there is none. -/
def upstreamHost (p : Protection) : String :=
  (p.ingress?.map fun found => found.2.upstreamHost).getD ""

/-- The mode of the ModSecurity engine, unspecified where nothing is said about it. -/
def modSecMode (p : Protection) : Mode := (p.modSec.map ModSec.mode).getD .unspecified

end Protection

end WafControl
