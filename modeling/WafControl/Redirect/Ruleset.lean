import WafControl.Data.Table
import WafControl.Redirect.Command

/-!
# Rulesets of the packet filter

A ruleset holds tables by family and name; a table holds chains of rules and sets of addresses. The
commands of a relay act on one table. Adding a table, a chain, a set or an element that is there
changes nothing; a rule is always appended; deleting a table removes all it holds. A command that
refers to what is not there is refused, and with it the whole transaction (`run?`).

`relayComments` is all that a relay ever learns about a ruleset.
-/

namespace WafControl

/-- What a rule does. -/
inductive RuleBody where
  | redirect (appPort relayPort : UInt16)
  | other (text : String)
  deriving DecidableEq, Repr

structure NftRule where
  body : RuleBody
  comment : Option String := none
  deriving DecidableEq, Repr

structure NftChain where
  rules : List NftRule := []
  comment : Option String := none
  deriving DecidableEq, Repr

structure AddressSet where
  addresses : List Ipv4 := []
  comment : Option String := none
  deriving DecidableEq, Repr

structure NftTable where
  chains : Table String NftChain := {}
  sets : Table String AddressSet := {}
  deriving DecidableEq, Repr

/-- The tables of a packet filter, by family and name. -/
structure Ruleset where
  tables : Table (String × String) NftTable := {}
  deriving DecidableEq, Repr

namespace NftRule

/-- Whether a relay made the rule. -/
def owned (r : NftRule) : Bool := r.comment == some Redirect.ownedComment

end NftRule

namespace AddressSet

/-- The set with an address, which it may hold already. -/
def add (s : AddressSet) (ip : Ipv4) : AddressSet :=
  if ip ∈ s.addresses then s else { s with addresses := s.addresses ++ [ip] }

end AddressSet

namespace Ruleset

open Redirect

/-- Where the relay's table is. -/
def relayKey : String × String := (family, tableName)

def relayTable? (rs : Ruleset) : Option NftTable := rs.tables.find? relayKey

def relayChain? (rs : Ruleset) : Option NftChain :=
  rs.relayTable?.bind fun t => t.chains.find? chainName

def gatewaySet? (rs : Ruleset) : Option AddressSet :=
  rs.relayTable?.bind fun t => t.sets.find? setName

/-- The comments of the rules in the relay's chain, or none without that chain. -/
def relayComments (rs : Ruleset) : Option (List (Option String)) :=
  rs.relayChain?.map fun c => c.rules.map NftRule.comment

/-- The rules in the relay's chain that a relay made. -/
def ownedRules (rs : Ruleset) : List NftRule :=
  match rs.relayChain? with
  | none => []
  | some c => c.rules.filter NftRule.owned

/-- The ruleset with another table of the relay. -/
def setRelayTable (rs : Ruleset) (t : NftTable) : Ruleset := ⟨rs.tables.insert relayKey t⟩

/-- Changes the relay's table, which has to be there. -/
def updateRelayTable? (rs : Ruleset) (f : NftTable → Option NftTable) : Option Ruleset :=
  rs.relayTable?.bind fun t => (f t).map rs.setRelayTable

end Ruleset

namespace NftTable

open Redirect

/-- The table with the chain, which it may hold already. -/
def addChain (t : NftTable) : NftTable :=
  if t.chains.contains chainName then t
  else { t with chains := t.chains.insert chainName { comment := some ownedComment } }

/-- The table with the set, which it may hold already. -/
def addSet (t : NftTable) : NftTable :=
  if t.sets.contains setName then t
  else { t with sets := t.sets.insert setName { comment := some ownedComment } }

/-- The table with more addresses in the set, which has to be there. -/
def addElements? (t : NftTable) (ips : List Ipv4) : Option NftTable :=
  (t.sets.find? setName).map fun s =>
    { t with sets := t.sets.insert setName (ips.foldl AddressSet.add s) }

/-- The table with one more rule at the end of the chain, which has to be there. -/
def addRule? (t : NftTable) (rule : NftRule) : Option NftTable :=
  (t.chains.find? chainName).map fun c =>
    { t with chains := t.chains.insert chainName { c with rules := c.rules ++ [rule] } }

end NftTable

namespace NftCommand

open Redirect

/-- The ruleset after a command; none if the command is refused. -/
def runOn? (rs : Ruleset) : NftCommand → Option Ruleset
  | addTable => some (if rs.relayTable?.isSome then rs else rs.setRelayTable {})
  | addChain => rs.updateRelayTable? fun t => some t.addChain
  | addSet => rs.updateRelayTable? fun t => some t.addSet
  | addElements ips => rs.updateRelayTable? fun t => t.addElements? ips
  | addRule appPort relayPort =>
    rs.updateRelayTable? fun t => t.addRule? ⟨.redirect appPort relayPort, some ownedComment⟩
  | deleteTable =>
    if rs.relayTable?.isSome then some ⟨rs.tables.erase Ruleset.relayKey⟩ else none

end NftCommand

namespace Ruleset

/-- The ruleset after a transaction; none if a command of it is refused. -/
def run? (rs : Ruleset) (tx : Transaction) : Option Ruleset := tx.foldlM NftCommand.runOn? rs

/-- The ruleset whose relay chain holds rules with the given comments and unknown effect, or which
has no relay table. -/
def withComments (rs : Ruleset) : Option (List (Option String)) → Ruleset
  | none => ⟨rs.tables.erase relayKey⟩
  | some comments =>
    let t := rs.relayTable?.getD {}
    let c := (t.chains.find? Redirect.chainName).getD {}
    let rules := comments.map fun comment => ⟨.other "", comment⟩
    rs.setRelayTable { t with chains := t.chains.insert Redirect.chainName { c with rules } }

end Ruleset

end WafControl
