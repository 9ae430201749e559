import WafControl.Json.Magnitude
import WafControl.Json.Reader
import WafControl.Redirect.Programmer

/-!
# Ruleset listings

The packet filter's program lists a ruleset as a JSON document: a list of entries, each holding an
object under its kind. Of an entry only a chain counts, or else a rule. `relayComments?` gathers the
comments of the rules in the relay's chain, in the order of the listing, wherever the chain itself
stands; a listing that names neither that chain nor a rule of it has none.

All entries have to be readable in full and every chain and rule well formed, also those of other
tables: otherwise the listing is an error as a whole.
-/

namespace WafControl

/-- What a listing says about a chain. -/
structure ListedChain where
  family : String
  table : String
  name : String
  deriving DecidableEq, Repr

/-- What a listing says about a rule. -/
structure ListedRule where
  family : String
  table : String
  chain : String
  comment : Option String
  deriving DecidableEq, Repr

/-- An entry of a listing, as far as it counts. -/
inductive ListedEntry where
  | chain (c : ListedChain)
  | rule (r : ListedRule)
  | other
  deriving DecidableEq, Repr

namespace ListedChain

def ofJson? (j : Json) : Option ListedChain := do
  match ← j.mapRecord? ["family", "table", "name"] with
  | [some family, some table, some name] =>
    pure { family := ← family.text?, table := ← table.text?, name := ← name.text? }
  | _ => none

/-- Whether this is the relay's chain. -/
def isRelay (c : ListedChain) : Bool :=
  c.family == Redirect.family && c.table == Redirect.tableName && c.name == Redirect.chainName

end ListedChain

namespace ListedRule

def ofJson? (j : Json) : Option ListedRule := do
  match ← j.mapRecord? ["family", "table", "chain", "comment"] with
  | [some family, some table, some chain, comment] =>
    pure
      { family := ← family.text?
        table := ← table.text?
        chain := ← chain.text?
        comment := ← Json.optional? Json.text? comment }
  | _ => none

/-- Whether this is a rule of the relay's chain. -/
def isRelay (r : ListedRule) : Bool :=
  r.family == Redirect.family && r.table == Redirect.tableName && r.chain == Redirect.chainName

end ListedRule

namespace Listing

/-- How deep the value of an entry may be nested: it stands in the document, the list of entries and
the entry itself. -/
def entryDepth : Nat := Json.greatestDepth - 3

def entry? : Json → Option ListedEntry
  | .object members =>
    if Json.readableMembers entryDepth members then
      match (Json.valuesOf "chain" members).getLast?, (Json.valuesOf "rule" members).getLast? with
      | some c, _ => (ListedChain.ofJson? c).map .chain
      | none, some r => (ListedRule.ofJson? r).map .rule
      | none, none => some .other
    else none
  | _ => none

def entries? (j : Json) : Option (List ListedEntry) := do
  match ← j.record? ["nftables"] with
  | [some (.array xs)] => xs.mapM entry?
  | _ => none

/-- The comment of a rule of the relay's chain. -/
def relayComment? : ListedEntry → Option (Option String)
  | .rule r => if r.isRelay then some r.comment else none
  | _ => none

/-- Whether an entry shows that the relay's chain is there. -/
def showsRelayChain : ListedEntry → Bool
  | .chain c => c.isRelay
  | .rule r => r.isRelay
  | .other => false

/-- The comments of the rules in the relay's chain, or none without that chain. -/
def relayComments (entries : List ListedEntry) : Option (List (Option String)) :=
  if entries.any showsRelayChain then some (entries.filterMap relayComment?) else none

/-- Reads what a listing says about the relay's chain. -/
def relayComments? (text : String) : Except NftError (Option (List (Option String))) :=
  match (Json.parse text).bind entries? with
  | some entries => .ok (relayComments entries)
  | none => .error .json

end Listing

end WafControl
