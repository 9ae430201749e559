import WafControl.Forwarding.StartRequest
import WafControl.Redirect.Programmer

/-!
# The relay's control interface

A relay server starts and stops forwarding in its network namespace. To start is to stop first,
which also removes what an earlier relay left in the ruleset; then the gateway is resolved, a
forwarder is bound to the relay port, and the redirect is programmed. Its health says that it is
serving from the end of a successful start to the next stop. A start with the options that are
active already does nothing.

The namespace is a record of operations over a state of any type.
-/

namespace WafControl

/-- What a relay server needs of its namespace. -/
structure RelayHost (σ : Type) where
  nft : NftOps σ
  /-- The addresses of a name with a port. -/
  resolve : String → UInt16 → σ → Except String (List SocketAddress) × σ
  /-- Binds a forwarder to an address, for gateways to choose from. -/
  bind : SocketAddress → List SocketAddress → σ → Except String Unit × σ
  release : σ → σ

/-- A relay server: the options it forwards with, its health, and its namespace. -/
structure RelayServer (σ : Type) where
  active : Option RelayOptions := none
  serving : Bool := false
  host : σ

namespace RelayServer

variable {σ : Type}

/-- What a failure of the packet filter is reported as. -/
def nftMessage (e : NftError) : String := e.message?.getD "invalid nft output"

/-- The status of a failure inside the relay. -/
def internalError (doing : String) (why : String) : Status := ⟨.internal, doing ++ ": " ++ why⟩

def stopForwarder (env : RelayHost σ) (srv : RelayServer σ) : RelayServer σ :=
  match srv.active with
  | none => srv
  | some _ => { active := none, serving := false, host := env.release srv.host }

/-- Stops forwarding, and removes whatever a relay left in the ruleset. -/
def deactivate (env : RelayHost σ) (srv : RelayServer σ) :
    Except Status Unit × RelayServer σ :=
  let srv := srv.stopForwarder env
  match Programmer.program env.nft .delete srv.host with
  | (.error e, host) =>
    (.error (internalError "failed to unprogram nftables" (nftMessage e)), { srv with host })
  | (.ok (), host) => (.ok (), { srv with host })

/-- The address that a forwarder listens on. -/
def listenAddress (listen : Ip) (options : RelayOptions) : SocketAddress :=
  { ip := listen, port := options.relayPort }

/-- Binds a forwarder to resolved gateways, and programs the redirect for it. -/
def activate (env : RelayHost σ) (listen : Ip) (options : RelayOptions)
    (gateways : List SocketAddress) (srv : RelayServer σ) : Except Status Unit × RelayServer σ :=
  let address := listenAddress listen options
  match env.bind address gateways srv.host with
  | (.error why, host) =>
    (.error (internalError ("failed to listen on " ++ address.display) why), { srv with host })
  | (.ok (), host) =>
    let redirect : Redirect :=
      { gatewayIps := gateways.filterMap fun a => a.ip.v4?
        appPort := options.appPort
        relayPort := options.relayPort }
    match Programmer.program env.nft (.add redirect) host with
    | (.error e, host) =>
      (.error (internalError "failed to program nftables" (nftMessage e)),
        { srv with host := env.release host })
    | (.ok (), host) => (.ok (), { active := some options, serving := true, host })

/-- Starts forwarding with checked options. -/
def start (env : RelayHost σ) (listen : Ip) (options : RelayOptions) (srv : RelayServer σ) :
    Except Status Unit × RelayServer σ :=
  if srv.active = some options then (.ok (), srv)
  else
    match srv.deactivate env with
    | (.error status, srv) => (.error status, srv)
    | (.ok (), srv) =>
      match env.resolve options.gatewayFqdn options.gatewayPort srv.host with
      | (.error why, host) =>
        (.error ⟨.unavailable, "failed to resolve " ++ options.gatewayFqdn ++ ": " ++ why⟩,
          { srv with host })
      | (.ok [], host) =>
        (.error ⟨.unavailable, options.gatewayFqdn ++ " has no addresses"⟩, { srv with host })
      | (.ok (g :: gs), host) => activate env listen options (g :: gs) { srv with host }

def startRelay (env : RelayHost σ) (listen : Ip) (request : Option StartRequest)
    (srv : RelayServer σ) : Except Status Unit × RelayServer σ :=
  match RelayOptions.ofRequest request with
  | .error fault => (.error fault.status, srv)
  | .ok options => srv.start env listen options

def stopRelay (env : RelayHost σ) (srv : RelayServer σ) : Except Status Unit × RelayServer σ :=
  srv.deactivate env

end RelayServer

end WafControl
