import WafControl.Policy.Filter

/-!
# The policy store, as its clients see it

A store answers two questions: its version token, which moves whenever the protections change, and
the protections that a filter selects. Either may fail. The record keeps what was asked: how often
each question came, and the filters of the listings since the record was last taken.

Reading the token takes the store's latency. `askVersion` is the moment of the question and
`answerVersion` that of the answer, so that a change may fall between the two.
-/

namespace WafControl

/-- A policy store and the record of what it was asked. -/
structure Store where
  version : String := ""
  protections : List Protection := []
  versionError : Option String := none
  listError : Option String := none
  /-- How many milliseconds the token takes to be read. -/
  latency : Nat := 0
  versionCalls : Nat := 0
  listCalls : Nat := 0
  /-- The filters of the listings since the record was last taken, latest first. -/
  recorded : List Filter := []
  deriving DecidableEq, Repr

/-- A change of the store; only the fields that are set change. -/
structure StoreChange where
  version : Option String := none
  protections : Option (List Protection) := none
  versionError : Option (Option String) := none
  listError : Option (Option String) := none
  latency : Option Nat := none
  deriving DecidableEq, Repr

namespace Store

def change (s : Store) (ch : StoreChange) : Store :=
  { s with
    version := ch.version.getD s.version
    protections := ch.protections.getD s.protections
    versionError := ch.versionError.getD s.versionError
    listError := ch.listError.getD s.listError
    latency := ch.latency.getD s.latency }

/-- The question for the version token is counted. -/
def askVersion (s : Store) : Store := { s with versionCalls := s.versionCalls + 1 }

/-- The version token, or why it cannot be read. -/
def answerVersion (s : Store) : Except String String :=
  match s.versionError with
  | some e => .error e
  | none => .ok s.version

/-- The protections that the filter selects, or why they cannot be listed. -/
def answerList (s : Store) (f : Filter) : Except String (List Protection) :=
  match s.listError with
  | some e => .error e
  | none => .ok (f.select s.protections)

def recordList (s : Store) (f : Filter) : Store :=
  { s with listCalls := s.listCalls + 1, recorded := f :: s.recorded }

/-- Lists the protections that the filter selects, and records the filter. -/
def list (s : Store) (f : Filter) : Except String (List Protection) × Store :=
  (s.answerList f, s.recordList f)

/-- Takes the recorded filters, in the order in which they came. -/
def takeRecorded (s : Store) : List Filter × Store :=
  (s.recorded.reverse, { s with recorded := [] })

end Store

end WafControl
