import WafControl.Text.Alphanumeric
import WafControl.Text.Characters

/-!
# Log filters

A log filter is a list of directives between commas. A directive names a level, a target, or spans
in brackets with fields in braces, and may say after an equals sign which level is meant. Only
whether a text is a filter is decided here; nothing is asked of a field but that it is there.

Blanks around a directive are passed over while its parts are found. The level is then cut from the
directive as it is written, at the distance from the front where it was found, so that blanks in
front of a directive move it. Distances are bytes in UTF-8.
-/

namespace WafControl

namespace LogFilter

def levelNames : List String := ["error", "warn", "info", "debug", "trace", "off"]

/-- Whether a text is a number of a level, with or without a plus sign. -/
def isLevelNumber (cs : List Char) : Bool :=
  let digits := match cs with
    | '+' :: ds => ds
    | ds => ds
  !digits.isEmpty && digits.all Char.isDigit && decide (Text.decimalValue digits ≤ 5)

/-- Whether a text is a level: its name in any case, its number, or nothing at all. -/
def isLevel (cs : List Char) : Bool :=
  cs.isEmpty || isLevelNumber cs || levelNames.any fun name => name.toList == cs.map Char.toLower

/-- The characters from a distance on. -/
def dropBytes : Nat → List Char → List Char
  | 0, cs => cs
  | _, [] => []
  | n, c :: cs => dropBytes (n - c.utf8Size) cs

/-- Where the reading of a directive has come to. -/
inductive Place where
  | start
  | levelOrTarget
  | span
  /-- In a field; whether it has a character yet. -/
  | field (begun : Bool)
  | fields
  | target
  /-- In a level, which starts at a distance from the front. -/
  | level (start : Nat)
  deriving DecidableEq, Repr

def startsDirective (c : Char) : Bool :=
  Text.isAlphanumeric c || c == '-' || c == ':' || c == '_'

/-- Takes one more character of a directive; none if it cannot stand there. What follows the
character is at the distance `next` from the front. -/
def step? (next : Nat) : Place → Char → Option Place
  | .start, c =>
    if c = '[' then some .span else if startsDirective c then some .levelOrTarget else none
  | .levelOrTarget, c =>
    if c = '=' then some (.level next) else if c = '[' then some .span else some .levelOrTarget
  | .target, c => if c = '=' then some (.level next) else none
  | .span, c =>
    if c = ']' then some .target else if c = '\x7b' then some (.field false) else some .span
  | .field begun, c =>
    if c = '\x7d' then if begun then some .fields else none else some (.field true)
  | .fields, c => if c = ']' then some .target else none
  | .level start, _ => some (.level start)

/-- Reads characters of a directive from a distance on. -/
def read? : Nat → Place → List Char → Option Place
  | _, place, [] => some place
  | here, place, c :: cs => do
    let next := here + c.utf8Size
    read? next (← step? next place c) cs

/-- Whether a directive may end at a place. -/
def mayEnd (directive : List Char) : Place → Bool
  | .levelOrTarget => true
  | .target => true
  | .level start => isLevel (dropBytes start directive)
  | _ => false

def isDirective (cs : List Char) : Bool :=
  match read? 0 .start (Text.trim cs) with
  | some place => mayEnd cs place
  | none => false

/-- The parts of a list of characters between commas. -/
def parts : List Char → List (List Char)
  | [] => [[]]
  | c :: cs =>
    match c, parts cs with
    | ',', ps => [] :: ps
    | c, p :: ps => (c :: p) :: ps
    | c, [] => [[c]]

/-- Whether a text is a log filter; empty directives are passed over. -/
def isValid (s : String) : Bool :=
  (parts s.toList).all fun cs => cs.isEmpty || isDirective cs

end LogFilter

end WafControl
