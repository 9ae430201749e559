/-!
# Classes of characters

What a reader of text asks of single characters and of runs of them: whether they lie in a table of
code points, whether they are blanks, in ASCII and beyond, and what number digits stand for. A
decimal number as it is written by hand is only recognised here: it is digits with at most one
point among them.
-/

namespace WafControl.Text

/-! ### Ranges of code points -/

/-- Whether one of the closed ranges holds `n`. The ranges ascend, so the search ends at the first
one that starts beyond `n`. -/
def inRanges (n : Nat) : List (Nat × Nat) → Bool
  | [] => false
  | (a, b) :: rs => if n < a then false else if n ≤ b then true else inRanges n rs

/-! ### Blanks -/

/-- Whether a character stands for white space. -/
def isBlank (c : Char) : Bool :=
  let n := c.toNat
  (decide (9 ≤ n) && decide (n ≤ 13)) || n == 0x20 || n == 0x85 || n == 0xa0 || n == 0x1680 ||
    (decide (0x2000 ≤ n) && decide (n ≤ 0x200a)) || n == 0x2028 || n == 0x2029 || n == 0x202f ||
    n == 0x205f || n == 0x3000

def trimStart (cs : List Char) : List Char := cs.dropWhile isBlank

/-- The characters without blanks at both ends. -/
def trim (cs : List Char) : List Char := (trimStart (trimStart cs).reverse).reverse

/-! ### Digits -/

/-- The number that decimal digits stand for. -/
def decimalValue (ds : List Char) : Nat := ds.foldl (fun n c => n * 10 + (c.toNat - 48)) 0

def hexDigit? (c : Char) : Option Nat :=
  if '0' ≤ c ∧ c ≤ '9' then some (c.toNat - 48)
  else if 'a' ≤ c ∧ c ≤ 'f' then some (c.toNat - 87)
  else if 'A' ≤ c ∧ c ≤ 'F' then some (c.toNat - 55)
  else none

/-- The two lower-case hexadecimal digits of a byte. -/
def hexByte (b : UInt8) : List Char :=
  [Nat.digitChar (b.toNat / 16), Nat.digitChar (b.toNat % 16)]

/-- The lower-case hexadecimal digits of a number, without leading zeros. -/
def hexDigits (n : Nat) : List Char := Nat.toDigits 16 n

/-- Whether characters are digits with at most one point among them; there is at least one digit. -/
def isDecimal (cs : List Char) : Bool :=
  let rest := cs.dropWhile Char.isDigit
  let fraction := if rest.head? = some '.' then rest.drop 1 else rest
  fraction.all Char.isDigit && cs.any Char.isDigit

/-- The characters without the sign in front, if there is one. -/
def unsigned : List Char → List Char
  | '+' :: cs => cs
  | '-' :: cs => cs
  | cs => cs

end WafControl.Text
