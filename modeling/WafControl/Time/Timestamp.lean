import WafControl.Text.Characters

/-!
# Points in time

A point in time is written as a date and a time of day with a distance from universal time:
`2024-05-01T10:00:00.25+02:00`. Readers of such texts are lenient about form and strict about what
the numbers mean. Blanks may stand in front of every number and behind the seconds, a letter `t` of
either case or a space parts the date from the time, numbers may lack leading zeros, and universal
time may be named `Z` or `UTC`; but the day has to be in the calendar, and the time in the day.

Readers take characters from the front of a list and give back what is left.
-/

namespace WafControl

/-- A date and a time of day somewhere, and how many seconds the place is ahead of universal
time. -/
structure Timestamp where
  year : Int
  month : Nat
  day : Nat
  hour : Nat
  minute : Nat
  /-- The second; the sixtieth is a leap second. -/
  second : Nat
  nanosecond : Nat := 0
  offset : Int := 0
  deriving DecidableEq, Repr

namespace Timestamp

def isLeapYear (year : Int) : Bool :=
  year % 4 == 0 && (year % 100 != 0 || year % 400 == 0)

/-- How many days a month has; a month outside of the year has none. -/
def daysInMonth (year : Int) (month : Nat) : Nat :=
  match month with
  | 2 => if isLeapYear year then 29 else 28
  | 4 | 6 | 9 | 11 => 30
  | 1 | 3 | 5 | 7 | 8 | 10 | 12 => 31
  | _ => 0

/-- The years of the calendar. -/
def firstYear : Int := -262143

def lastYear : Int := 262142

def daySeconds : Int := 86400

/-- Whether a point in time is in the calendar, and in the day. The calendar ends at both sides in
universal time as well. -/
def isValid (t : Timestamp) : Bool :=
  let moment : Int := t.hour * 3600 + t.minute * 60 + min t.second 59 - t.offset
  decide (firstYear ≤ t.year) && decide (t.year ≤ lastYear) &&
    decide (1 ≤ t.day) && decide (t.day ≤ daysInMonth t.year t.month) &&
    decide (t.hour < 24) && decide (t.minute < 60) && decide (t.second ≤ 60) &&
    decide (-daySeconds < t.offset) && decide (t.offset < daySeconds) &&
    !(t.year == firstYear && t.month == 1 && t.day == 1 && decide (moment < 0)) &&
    !(t.year == lastYear && t.month == 12 && t.day == 31 && decide (daySeconds ≤ moment))

/-- Takes digits from the front, at most so many and at least one. -/
def digits? (most : Nat) (cs : List Char) : Option (Nat × List Char) :=
  match (cs.take most).takeWhile Char.isDigit with
  | [] => none
  | ds => some (Text.decimalValue ds, cs.drop ds.length)

/-- A number of at most so many digits, after blanks. -/
def number? (most : Nat) (cs : List Char) : Option (Nat × List Char) :=
  digits? most (Text.trimStart cs)

/-- A year, after blanks: a number of up to four digits, or of any number of them after a sign. -/
def year? (cs : List Char) : Option (Int × List Char) :=
  match Text.trimStart cs with
  | '-' :: cs => (digits? cs.length cs).map fun (n, cs) => (-(n : Int), cs)
  | '+' :: cs => (digits? cs.length cs).map fun (n, cs) => ((n : Int), cs)
  | cs => (digits? 4 cs).map fun (n, cs) => ((n : Int), cs)

/-- Takes a character from the front, after blanks. -/
def mark? (c : Char) (cs : List Char) : Option (List Char) :=
  match Text.trimStart cs with
  | d :: cs => if d = c then some cs else none
  | [] => none

/-- What parts the date from the time. -/
def separator? : List Char → Option (List Char)
  | c :: cs => if c = 't' ∨ c = 'T' ∨ c = ' ' then some cs else none
  | [] => none

/-- The nanoseconds behind a point, if there is one; digits after the ninth count for nothing. -/
def fraction? : List Char → Option (Nat × List Char)
  | '.' :: cs =>
    match cs.takeWhile Char.isDigit with
    | [] => none
    | ds =>
      let nanoseconds := (ds ++ List.replicate 9 '0').take 9
      some (Text.decimalValue nanoseconds, cs.dropWhile Char.isDigit)
  | cs => some (0, cs)

def twoDigits? : List Char → Option (Nat × List Char)
  | c :: d :: cs => if c.isDigit && d.isDigit then some (Text.decimalValue [c, d], cs) else none
  | _ => none

/-- A distance in hours and minutes, in seconds. Colons and blanks may stand between the two. -/
def distance? (cs : List Char) : Option (Int × List Char) := do
  let (hours, cs) ← twoDigits? cs
  let (minutes, cs) ← twoDigits? (cs.dropWhile fun c => c == ':' || Text.isBlank c)
  if minutes < 60 then pure ((hours * 3600 + minutes * 60 : Nat), cs) else none

/-- The distance from universal time. A minus sign may be the hyphen or the sign of arithmetic. -/
def offset? : List Char → Option (Int × List Char)
  | 'Z' :: cs => some (0, cs)
  | 'z' :: cs => some (0, cs)
  | '+' :: cs => distance? cs
  | '-' :: cs => (distance? cs).map fun (n, cs) => (-n, cs)
  | '−' :: cs => (distance? cs).map fun (n, cs) => (-n, cs)
  | u :: t :: c :: cs =>
    if [u, t, c].map Char.toUpper = ['U', 'T', 'C'] then some (0, cs) else none
  | _ => none

/-- Reads a point in time, whether or not it is in the calendar. -/
def read? (cs : List Char) : Option (Timestamp × List Char) := do
  let (year, cs) ← year? cs
  let (month, cs) ← number? 2 (← mark? '-' cs)
  let (day, cs) ← number? 2 (← mark? '-' cs)
  let (hour, cs) ← number? 2 (← separator? cs)
  let (minute, cs) ← number? 2 (← mark? ':' cs)
  let (second, cs) ← number? 2 (← mark? ':' cs)
  let (nanosecond, cs) ← fraction? cs
  let (offset, cs) ← offset? (Text.trimStart cs)
  pure ({ year, month, day, hour, minute, second, nanosecond, offset }, cs)

/-- The point in time that a text stands for. -/
def ofString? (s : String) : Option Timestamp :=
  match read? s.toList with
  | some (t, rest) => if Text.trimStart rest = [] ∧ t.isValid then some t else none
  | none => none

end Timestamp

end WafControl
