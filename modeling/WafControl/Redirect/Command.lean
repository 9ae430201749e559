import WafControl.Net.Address

/-!
# Redirect commands

A relay redirects the traffic for an application's port to its own port, except what comes from the
gateway, so that the gateway itself can reach the application. Everything it needs for that lives in
one table of the packet filter: a chain with the redirecting rule, and a set with the gateway's
addresses. Deleting the table therefore removes all of it.

A transaction is a list of commands that are carried out all or none; its text has one line for
each.
-/

namespace WafControl

/-- The traffic to redirect. -/
structure Redirect where
  /-- Sources that are not redirected. -/
  gatewayIps : List Ipv4 := []
  appPort : UInt16 := 0
  relayPort : UInt16 := 0
  deriving DecidableEq, Repr

namespace Redirect

def family : String := "inet"

def tableName : String := "appsecgw"

/-- The name of the chain in it. -/
def chainName : String := "prerouting"

/-- The name of the set of gateway addresses in it. -/
def setName : String := "appsecgw-ips-set"

/-- The comment that marks what a relay made. -/
def ownedComment : String := "appsecgw-owned-object"

end Redirect

/-- A command on the relay's table. -/
inductive NftCommand where
  | addTable
  | addChain
  | addSet
  | addElements (ips : List Ipv4)
  | addRule (appPort relayPort : UInt16)
  | deleteTable
  deriving DecidableEq, Repr

namespace NftCommand

open Redirect

/-- The words for the relay's table. -/
def onTable : String := family ++ " " ++ tableName

/-- The owner's mark as a comment. -/
def comment : String := "comment \"" ++ ownedComment ++ "\""

def block (body : String) : String := "\x7b " ++ body ++ " \x7d"

def text : NftCommand → String
  | addTable => "add table " ++ onTable
  | addChain =>
    "add chain " ++ onTable ++ " " ++ chainName ++ " " ++
      block ("type nat hook prerouting priority dstnat ; " ++ comment ++ " ;")
  | addSet =>
    "add set " ++ onTable ++ " " ++ setName ++ " " ++ block ("type ipv4_addr ; " ++ comment ++ " ;")
  | addElements ips =>
    "add element " ++ onTable ++ " " ++ setName ++ " " ++
      block (", ".intercalate (ips.map Ipv4.display))
  | addRule appPort relayPort =>
    "add rule " ++ onTable ++ " " ++ chainName ++ " ip saddr != @" ++ setName ++ " tcp dport " ++
      toString appPort.toNat ++ " redirect to :" ++ toString relayPort.toNat ++ " " ++ comment
  | deleteTable => "delete table " ++ onTable

end NftCommand

/-- Commands that are carried out all or none. -/
abbrev Transaction := List NftCommand

namespace Transaction

/-- One line for each command. -/
def text (tx : Transaction) : String := String.join (tx.map fun c => c.text ++ "\n")

end Transaction

namespace Redirect

/-- Creates the table, the chain, the set of gateway addresses and the redirecting rule. -/
def addition (r : Redirect) : Transaction :=
  [.addTable, .addChain, .addSet] ++
    (if r.gatewayIps = [] then [] else [.addElements r.gatewayIps]) ++
    [.addRule r.appPort r.relayPort]

def removal : Transaction := [.deleteTable]

end Redirect

end WafControl
