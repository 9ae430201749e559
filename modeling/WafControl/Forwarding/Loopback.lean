import WafControl.Data.Table
import WafControl.Forwarding.Server

/-!
# A relay on the loopback interface

A namespace with a scripted packet filter, in which gateways listen on some ports of the loopback
interface and other processes on others. A forwarder can be bound to a port that is free. Gateways
send back what they receive.

Connections need the interface to be up; binding a port does not. A connection keeps its other end
when the forwarder that made it is stopped.
-/

namespace WafControl

/-! ### Resolving and binding without a network -/
namespace Forwarder

/-- The addresses of an address literal with a port. -/
def resolve (name : String) (port : UInt16) : Except String (List SocketAddress) :=
  match Ip.ofString? name with
  | some ip => .ok [{ ip, port }]
  | none => .error "failed to lookup address information: Name or service not known"

/-- Why a forwarder cannot be bound for the given gateways. -/
def refusal? (gateways : List SocketAddress) : Option String :=
  if gateways = [] then some "no gateway addresses" else none

end Forwarder

/-- The loopback interface of a namespace and what listens on it. -/
structure Loopback where
  nft : ScriptedNft := {}
  up : Bool := false
  gateways : List UInt16 := []
  occupied : List UInt16 := []
  /-- The port of the forwarder and the gateways it forwards to. -/
  forwarder : Option (UInt16 × List SocketAddress) := none
  /-- The open connections, and whether what is sent comes back. -/
  connections : Table String Bool := {}

namespace Loopback

/-- The address of the loopback interface. -/
def ip : Ip := .v4 ⟨127, 0, 0, 1⟩

def inUse (l : Loopback) (port : UInt16) : Bool :=
  l.gateways.contains port || l.occupied.contains port || l.forwarder.any fun f => f.1 == port

def bind (address : SocketAddress) (gateways : List SocketAddress) (l : Loopback) :
    Except String Unit × Loopback :=
  match Forwarder.refusal? gateways with
  | some why => (.error why, l)
  | none =>
    if l.inUse address.port then (.error "Address already in use (os error 98)", l)
    else (.ok (), { l with forwarder := some (address.port, gateways) })

def nftOps : NftOps Loopback where
  list := fun l => (l.nft.list, l)
  run := fun tx l => ((ScriptedNft.run tx l.nft).1, { l with nft := (ScriptedNft.run tx l.nft).2 })

/-- What the namespace offers to a relay server. -/
def host : RelayHost Loopback where
  nft := nftOps
  resolve := fun name port l => (Forwarder.resolve name port, l)
  bind := bind
  release := fun l => { l with forwarder := none }

/-- Whether what is sent to a port comes back. -/
def echoes (l : Loopback) (port : UInt16) : Bool :=
  l.gateways.contains port ||
    match l.forwarder with
    | some (own, gateways) =>
      own == port && gateways.any fun g => g.ip == ip && l.gateways.contains g.port
    | none => false

/-- Opens a connection to a port, and tells whether it was accepted. -/
def connect (l : Loopback) (id : String) (port : UInt16) : Bool × Loopback :=
  if l.up && l.inUse port then
    (true, { l with connections := l.connections.insert id (l.echoes port) })
  else (false, l)

/-- What comes back over a connection, if it is open and its other end sends something back. -/
def exchange (l : Loopback) (id data : String) : Option String :=
  if (l.connections.find? id).getD false then some data else none

end Loopback

end WafControl
