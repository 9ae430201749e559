import WafControl.Text.Characters

/-!
# Spans of time with units

A span of time is written as numbers with units, one behind the other: `1h30m`, `1.5s`. A single
zero without a unit may end it, or be all of it; nothing at all is a span of no length as well.
Signs in front say only whether the span is negative, and each number may have a sign of its own.

Only whether a text is a span is decided here. `Reading` is what has been read of the number and of
the unit that follows it.
-/

namespace WafControl

namespace Timespan

/-- The units, from nanoseconds to hours; the micro sign and the letter mu are both in use. -/
def units : List String := ["ns", "us", "µs", "μs", "ms", "s", "m", "h"]

/-- Whether a character belongs to a unit and not to a number. -/
def isUnitChar (c : Char) : Bool := c.isAlpha || c == 'µ' || c == 'μ'

/-- A number and the unit behind it, as far as they have been read. -/
structure Reading where
  number : List Char := []
  unit : List Char := []
  deriving DecidableEq, Repr

namespace Reading

/-- Whether there is nothing to add: no number, or a zero without a unit. -/
def isNothing (r : Reading) : Bool := (r.number.isEmpty || r.number == ['0']) && r.unit.isEmpty

/-- Whether number and unit are complete. -/
def isComplete (r : Reading) : Bool :=
  Text.isDecimal (Text.unsigned r.number) && units.contains (String.ofList r.unit)

/-- Takes one more character. A character of a number behind a unit starts the next number; none if
the unit or the number before it is not complete. -/
def step? (r : Reading) (c : Char) : Option Reading :=
  if isUnitChar c then some { r with unit := r.unit ++ [c] }
  else if r.unit = [] then some { r with number := r.number ++ [c] }
  else if r.isComplete then some { number := [c] }
  else none

end Reading

/-- The characters without the signs of the whole span. -/
def withoutSigns (cs : List Char) : List Char :=
  (cs.dropWhile fun c => c == '+').dropWhile fun c => c == '-'

def isValid (s : String) : Bool :=
  match (withoutSigns s.toList).foldlM Reading.step? {} with
  | some r => r.isNothing || r.isComplete
  | none => false

end Timespan

end WafControl
