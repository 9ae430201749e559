import WafControl.Json.Value
import WafControl.Text.Characters

/-!
# Reading JSON

`Json.parse` reads a whole document: one value with blanks around it and nothing else. Only the
grammar is checked here. Numbers of any size pass, and so does the escape of a surrogate without a
partner; whoever uses the document decides about those.

A reader takes characters from the front and gives back what is left. Every value takes at least one
character, so that a document is never nested deeper than it is long.
-/

namespace WafControl

namespace Json

def isBlank (c : Char) : Bool := c == ' ' || c == '\n' || c == '\t' || c == '\r'

def skipBlanks (cs : List Char) : List Char := cs.dropWhile isBlank

/-- The number that four hexadecimal digits stand for. -/
def hexUnit? (a b c d : Char) : Option Nat := do
  let ds ← [a, b, c, d].mapM Text.hexDigit?
  pure (ds.foldl (fun n d => n * 16 + d) 0)

/-- The character that a letter stands for after a backslash. -/
def escaped? : Char → Option Char
  | '"' => some '"'
  | '\\' => some '\\'
  | '/' => some '/'
  | 'b' => some (Char.ofNat 8)
  | 'f' => some (Char.ofNat 12)
  | 'n' => some '\n'
  | 'r' => some '\r'
  | 't' => some '\t'
  | _ => none

/-- What a string is written with: a character, or an escaped code unit. -/
inductive Unit where
  | char (c : Char)
  | escaped (n : Nat)
  deriving DecidableEq, Repr

/-- Reads a string whose opening quote has been taken. -/
def units? : List Char → Option (List Unit × List Char)
  | '"' :: cs => some ([], cs)
  | '\\' :: 'u' :: a :: b :: c :: d :: cs => do
    let n ← hexUnit? a b c d
    let (us, cs) ← units? cs
    pure (.escaped n :: us, cs)
  | '\\' :: e :: cs => do
    let c ← escaped? e
    let (us, cs) ← units? cs
    pure (.char c :: us, cs)
  | c :: cs =>
    if c.toNat < 32 then none
    else do
      let (us, cs) ← units? cs
      pure (.char c :: us, cs)
  | [] => none

def isHighSurrogate (n : Nat) : Bool := decide (0xD800 ≤ n ∧ n < 0xDC00)

def isLowSurrogate (n : Nat) : Bool := decide (0xDC00 ≤ n ∧ n < 0xE000)

/-- The characters that units stand for: two escaped surrogates stand for one character, and one
alone for none. -/
def characters? : List Unit → Option (List Char)
  | [] => some []
  | .char c :: us => (characters? us).map (c :: ·)
  | .escaped n :: .escaped m :: us =>
    if isHighSurrogate n then
      if isLowSurrogate m then
        (characters? us).map (Char.ofNat (0x10000 + (n - 0xD800) * 1024 + (m - 0xDC00)) :: ·)
      else none
    else if isLowSurrogate n then none
    else (characters? (.escaped m :: us)).map (Char.ofNat n :: ·)
  | .escaped n :: us =>
    if isHighSurrogate n || isLowSurrogate n then none
    else (characters? us).map (Char.ofNat n :: ·)

/-- Reads a string whose opening quote has been taken. -/
def readString? (cs : List Char) : Option (Option String × List Char) :=
  (units? cs).map fun (us, cs) => ((characters? us).map String.ofList, cs)

/-- Takes digits from the front; there has to be one. -/
def digits? (cs : List Char) : Option (List Char × List Char) :=
  match cs.takeWhile Char.isDigit with
  | [] => none
  | ds => some (ds, cs.dropWhile Char.isDigit)

/-- Digits without a needless zero in front. -/
def integer? (cs : List Char) : Option (List Char × List Char) :=
  match digits? cs with
  | some ('0' :: _ :: _, _) => none
  | found => found

/-- The digits after a point, if there is one. -/
def fraction? : List Char → Option (List Char × List Char)
  | '.' :: cs => digits? cs
  | cs => some ([], cs)

/-- The sign and the digits of an exponent, if there is one. -/
def exponent? : List Char → Option (Bool × List Char × List Char)
  | c :: cs =>
    if c == 'e' || c == 'E' then
      match cs with
      | '-' :: cs => (digits? cs).map fun (ds, cs) => (true, ds, cs)
      | '+' :: cs => (digits? cs).map fun (ds, cs) => (false, ds, cs)
      | cs => (digits? cs).map fun (ds, cs) => (false, ds, cs)
    else some (false, [], c :: cs)
  | [] => some (false, [], [])

/-- Reads a number without its sign. -/
def unsigned? (negative : Bool) (cs : List Char) : Option (JsonNumber × List Char) := do
  let (integer, cs) ← integer? cs
  let (fraction, cs) ← fraction? cs
  let (exponentNegative, exponent, cs) ← exponent? cs
  pure ({ negative, integer, fraction, exponentNegative, exponent }, cs)

def readNumber? : List Char → Option (JsonNumber × List Char)
  | '-' :: cs => unsigned? true cs
  | cs => unsigned? false cs

mutual

/-- Reads a value, after blanks. -/
def value? : Nat → List Char → Option (Json × List Char)
  | 0, _ => none
  | fuel + 1, cs =>
    match skipBlanks cs with
    | '{' :: cs =>
      match skipBlanks cs with
      | '}' :: cs => some (.object [], cs)
      | cs => (members? fuel cs).map fun (ms, cs) => (.object ms, cs)
    | '[' :: cs =>
      match skipBlanks cs with
      | ']' :: cs => some (.array [], cs)
      | cs => (elements? fuel cs).map fun (xs, cs) => (.array xs, cs)
    | '"' :: cs => (readString? cs).map fun (s, cs) => (.string s, cs)
    | 'n' :: 'u' :: 'l' :: 'l' :: cs => some (.null, cs)
    | 't' :: 'r' :: 'u' :: 'e' :: cs => some (.bool true, cs)
    | 'f' :: 'a' :: 'l' :: 's' :: 'e' :: cs => some (.bool false, cs)
    | cs => (readNumber? cs).map fun (n, cs) => (.number n, cs)

/-- Reads the elements of an array up to its end; there is at least one. -/
def elements? : Nat → List Char → Option (List Json × List Char)
  | 0, _ => none
  | fuel + 1, cs => do
    let (x, cs) ← value? fuel cs
    match skipBlanks cs with
    | ',' :: cs =>
      let (xs, cs) ← elements? fuel cs
      pure (x :: xs, cs)
    | ']' :: cs => pure ([x], cs)
    | _ => none

/-- Reads the members of an object up to its end; there is at least one. -/
def members? : Nat → List Char → Option (List (Option String × Json) × List Char)
  | 0, _ => none
  | fuel + 1, cs =>
    match skipBlanks cs with
    | '"' :: cs => do
      let (key, cs) ← readString? cs
      match skipBlanks cs with
      | ':' :: cs =>
        let (x, cs) ← value? fuel cs
        match skipBlanks cs with
        | ',' :: cs =>
          let (ms, cs) ← members? fuel cs
          pure ((key, x) :: ms, cs)
        | '}' :: cs => pure ([(key, x)], cs)
        | _ => none
      | _ => none
    | _ => none

end

def parse (s : String) : Option Json :=
  let cs := s.toList
  match value? (2 * cs.length + 2) cs with
  | some (j, rest) => if skipBlanks rest = [] then some j else none
  | none => none

end Json

end WafControl
