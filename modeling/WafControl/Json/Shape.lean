import WafControl.Json.Reader
import WafControl.Time.Timestamp

/-!
# Shapes of documents

A shape says what form a value has to have. Members of a record may be left out or null, members it
does not know are passed over, and of a member that is there more than once every value has to have
the form. A list and a dictionary hold no nulls.
-/

namespace WafControl

/-- The form of a value. -/
inductive Shape where
  | any
  | text
  | flag
  /-- A whole number that fits so many bits, with its sign. -/
  | whole (bits : Nat)
  /-- A whole number of 32 bits, or a text that names one. -/
  | wholeOrName
  /-- A text that stands for a point in time. -/
  | time
  | list (item : Shape)
  /-- An object with values of one form under any keys. -/
  | dictionary (value : Shape)
  /-- An object with known members. -/
  | record (members : List (String × Shape))

namespace JsonNumber

/-- The whole number that is written without a fraction and an exponent. A zero with a minus sign
is none. -/
def whole? (n : JsonNumber) : Option Int :=
  let value : Nat := Text.decimalValue n.integer
  if n.fraction = [] ∧ n.exponent = [] ∧ ¬(n.negative = true ∧ value = 0) then
    some (if n.negative then -(value : Int) else value)
  else none

/-- Whether the number is a whole one that fits so many bits with its sign. -/
def fits (bits : Nat) (n : JsonNumber) : Bool :=
  match n.whole? with
  | none => false
  | some v =>
    let bound : Int := Nat.pow 2 (bits - 1)
    decide (-bound ≤ v ∧ v < bound)

end JsonNumber

namespace Shape

mutual

def admits : Shape → Json → Bool
  | any, _ => true
  | text, .string (some _) => true
  | flag, .bool _ => true
  | whole bits, .number n => n.fits bits
  | wholeOrName, .number n => n.fits 32
  | wholeOrName, .string (some _) => true
  | time, .string (some s) => (Timestamp.ofString? s).isSome
  | list item, .array xs => xs.all fun x => admits item x
  | dictionary value, .object members => members.all fun m => m.1.isSome && admits value m.2
  | record known, .object members =>
    members.all (fun m => m.1.isSome) && admitsMembers known members
  | _, _ => false

/-- Whether the members of an object have the forms of the known ones. -/
def admitsMembers : List (String × Shape) → List (Option String × Json) → Bool
  | [], _ => true
  | (key, shape) :: known, members =>
    ((Json.valuesOf key members).all fun j => j.isNull || admits shape j) &&
      admitsMembers known members

end

/-- Members that are texts. -/
def texts (keys : List String) : List (String × Shape) := keys.map fun key => (key, text)

/-- Members that are flags. -/
def flags (keys : List String) : List (String × Shape) := keys.map fun key => (key, flag)

/-- Members that are whole numbers of so many bits. -/
def wholes (bits : Nat) (keys : List String) : List (String × Shape) :=
  keys.map fun key => (key, whole bits)

end Shape

end WafControl
