import WafControl.Json.Value
import WafControl.Text.Characters

/-!
# The range of numbers

Numbers are read as 64-bit floats of 53 significant bits. The digits are first gathered into a
64-bit whole number and a power of ten: digits in front of the point that no longer fit raise the
power, and digits after it that no longer fit are dropped. The whole number and the power of ten
are rounded, and so is their product; a number is in range if that product is a finite float.
-/

namespace WafControl

namespace JsonNumber

/-- The digit that a character stands for. -/
def digitValue (c : Char) : Nat := c.toNat - 48

/-- Whole numbers up to this limit are gathered. -/
def gatherLimit : Nat := UInt64.size

/-- Gathers digits as long as the number fits; gives the number and the digits that are left. -/
def gather : Nat → List Char → Nat × List Char
  | n, [] => (n, [])
  | n, c :: cs =>
    let m := n * 10 + digitValue c
    if m < gatherLimit then gather m cs else (n, c :: cs)

/-- The gathered digits, and the power of ten that belongs to them. -/
def decimal (x : JsonNumber) : Nat × Int :=
  let (n, raised) := gather 0 x.integer
  let (m, dropped) := gather n x.fraction
  (m, (raised.length : Int) - ((x.fraction.length - dropped.length : Nat) : Int))

/-- The nearest whole number of at most 53 significant bits; of two such, the even one. -/
def round53 (n : Nat) : Nat :=
  let bits := Nat.log2 n + 1
  if bits ≤ 53 then n
  else
    let unit := Nat.pow 2 (bits - 53)
    let quotient := n / unit
    let rest := n % unit
    let up := decide (unit < 2 * rest) || (2 * rest == unit && quotient % 2 == 1)
    (if up then quotient + 1 else quotient) * unit

/-- The greatest power of ten that is a finite float. -/
def greatestPower : Nat := 308

/-- The written exponent; none if it does not fit 31 bits. -/
def writtenExponent? (x : JsonNumber) : Option Nat :=
  let n := Text.decimalValue x.exponent
  if n < Nat.pow 2 31 then some n else none

/-- Whether a product of a gathered number and a power of ten is a finite float. -/
def finite (m : Nat) (power : Int) : Bool :=
  if power ≤ 0 then true
  else if greatestPower < power.toNat then m == 0
  else decide (round53 (round53 m * round53 (Nat.pow 10 power.toNat)) < Nat.pow 2 1024)

/-- Whether the number is in the range of floats. -/
def inRange (x : JsonNumber) : Bool :=
  let (m, power) := x.decimal
  match x.writtenExponent? with
  | some e => finite m (if x.exponentNegative then power - e else power + e)
  | none => x.exponentNegative || m == 0

end JsonNumber

namespace Json

/-- How deep a document may be nested. -/
def greatestDepth : Nat := 127

mutual

/-- Whether a value can be read in full: it is nested at most so deep, its strings stand for texts
and its numbers are in range. -/
def readable (depth : Nat) : Json → Bool
  | null => true
  | bool _ => true
  | number n => n.inRange
  | string s => s.isSome
  | array xs => depth != 0 && readableAll (depth - 1) xs
  | object members => depth != 0 && readableMembers (depth - 1) members

def readableAll (depth : Nat) : List Json → Bool
  | [] => true
  | x :: xs => readable depth x && readableAll depth xs

def readableMembers (depth : Nat) : List (Option String × Json) → Bool
  | [] => true
  | (key, x) :: members => key.isSome && readable depth x && readableMembers depth members

end

end Json

end WafControl
