/-!
# JSON documents

The tree of a JSON document, kept as it was written: numbers by their digits, objects with all
their members in order, so that a key may occur more than once. A string may hold the escape of a
surrogate that has no partner; no text stands for such a string, and it is kept as `none`.

Two ways to take members from an object are needed. A record may also be written as the list of its
members (`Json.record?`), and a key of it must not repeat. In a map, the last member for a key is
the one that counts (`Json.mapRecord?`).
-/

namespace WafControl

/-- A number, by its digits. The lists of digits of a fraction and of an exponent are empty where
there is none. -/
structure JsonNumber where
  negative : Bool := false
  integer : List Char
  fraction : List Char := []
  exponentNegative : Bool := false
  exponent : List Char := []
  deriving DecidableEq, Repr

inductive Json where
  | null
  | bool (b : Bool)
  | number (n : JsonNumber)
  | string (s : Option String)
  | array (xs : List Json)
  | object (members : List (Option String × Json))
  deriving Repr

namespace Json

instance : Inhabited Json := ⟨null⟩

def text? : Json → Option String
  | string s => s
  | _ => none

def isNull : Json → Bool
  | null => true
  | _ => false

/-- A value that may be left out or null: `f` reads it if there is one. -/
def optional? {α : Type} (f : Json → Option α) : Option Json → Option (Option α)
  | none => some none
  | some null => some none
  | some j => (f j).map some

/-- The values of the members with a key, in order. -/
def valuesOf (key : String) (members : List (Option String × Json)) : List Json :=
  members.filterMap fun m => if m.1 = some key then some m.2 else none

/-- The value of a key that must not repeat: nothing at all if it does. -/
def once? (key : String) (members : List (Option String × Json)) : Option (Option Json) :=
  match valuesOf key members with
  | [] => some none
  | [j] => some (some j)
  | _ => none

/-- The values of a list that stands for a record with so many members: those left out at the end
are missing, and there must not be more. -/
def positional? (count : Nat) (xs : List Json) : Option (List (Option Json)) :=
  if xs.length ≤ count then some (xs.map some ++ List.replicate (count - xs.length) none)
  else none

/-- The members of a record under the given keys, each with its value if it has one. No key of the
record may be unreadable, and none of those given may repeat. -/
def record? (keys : List String) : Json → Option (List (Option Json))
  | object members =>
    if members.all fun m => m.1.isSome then keys.mapM fun k => once? k members else none
  | array xs => positional? keys.length xs
  | _ => none

/-- The members of a record in which the last member for a key counts. -/
def mapRecord? (keys : List String) : Json → Option (List (Option Json))
  | object members => some (keys.map fun k => (valuesOf k members).getLast?)
  | array xs => positional? keys.length xs
  | _ => none

end Json

end WafControl
