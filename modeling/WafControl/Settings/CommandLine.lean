import WafControl.Data.Table
import WafControl.Net.Address
import WafControl.Settings.LogFilter
import WafControl.Time.Timespan

/-!
# Command lines

The controller is told what to do by long options. Most take a value, either behind an equals sign
or as the next word; a word that starts with a hyphen is never the value of the option before it.
A value is judged when the next option or the end comes, and so is an option without one; a word
that no option is known for is noticed at once. There are no short options and no words that stand
for themselves.

Every option may be given once. `CommandLine.parse` gives the values by option, or the first
fault.
-/

namespace WafControl

inductive OptionKind where
  | flag
  | text
  /-- A path, which must not be empty. -/
  | path
  /-- A number of 16 bits. -/
  | port
  /-- A number of 64 bits. -/
  | count
  | address
  | logFilter
  | logFormat
  /-- A span of time with units. -/
  | timespan
  deriving DecidableEq, Repr

inductive OptionValue where
  | set
  | text (s : String)
  | number (n : Nat)
  | address (a : SocketAddress)
  deriving DecidableEq, Repr

inductive CommandLineFault where
  | unknownArgument
  /-- A value is not of the kind that its option takes. -/
  | invalidText
  /-- A value is missing, or empty where it must not be. -/
  | missingValue
  /-- An option is given twice. -/
  | repeated
  /-- A flag is given a value. -/
  | unwantedValue
  deriving DecidableEq, Repr

def CommandLineFault.message : CommandLineFault → String
  | unknownArgument => "unexpected argument"
  | invalidText => "invalid value for an option"
  | missingValue => "a value is required for an option"
  | repeated => "an option cannot be used multiple times"
  | unwantedValue => "unexpected value for a flag"

/-- The options of a program, by name. -/
abbrev OptionTable := List (String × OptionKind)

namespace OptionKind

/-- The number that decimal digits stand for, with or without a plus sign. -/
def unsigned? : List Char → Option Nat
  | '+' :: ds => Net.whole (Net.number? 10 UInt64.size none ds)
  | ds => Net.whole (Net.number? 10 UInt64.size none ds)

/-- A 16-bit number. Zero may have a minus sign. -/
def port? (cs : List Char) : Option Nat :=
  match cs with
  | '-' :: ds => (Net.whole (Net.number? 10 1 none ds))
  | cs => (unsigned? cs).filter fun n => decide (n < 65536)

def read (kind : OptionKind) (s : String) : Except CommandLineFault OptionValue :=
  let valid (v : Option OptionValue) : Except CommandLineFault OptionValue :=
    match v with
    | some v => .ok v
    | none => .error .invalidText
  match kind with
  | flag => .ok .set
  | text => .ok (.text s)
  | path => if s = "" then .error .missingValue else .ok (.text s)
  | port => valid ((port? s.toList).map .number)
  | count => valid ((unsigned? s.toList).map .number)
  | address => valid ((SocketAddress.ofString? s).map .address)
  | logFilter => valid (if LogFilter.isValid s then some (.text s) else none)
  | logFormat => valid (if s = "plain" ∨ s = "json" then some (.text s) else none)
  | timespan => valid (if Timespan.isValid s then some (.text s) else none)

end OptionKind

namespace CommandLine

/-- The option whose turn it is, and its value if it has come. -/
structure Pending where
  name : String
  kind : OptionKind
  value : Option String := none
  deriving DecidableEq, Repr

/-- The values taken so far, and the option whose value is not taken yet. -/
structure State where
  values : Table String OptionValue := {}
  pending : Option Pending := none
  deriving DecidableEq, Repr

/-- Gives an option its value; it must not have one yet. -/
def give (s : State) (name : String) (v : Except CommandLineFault OptionValue) :
    Except CommandLineFault State :=
  if s.values.contains name then .error .repeated
  else v.map fun v => { s with values := s.values.insert name v }

/-- Gives the pending option its value, which must have come. -/
def settle (s : State) : Except CommandLineFault State :=
  match s.pending with
  | none => .ok s
  | some p =>
    match p.value with
    | none => .error .missingValue
    | some v => give { s with pending := none } p.name (p.kind.read v)

/-- Splits the name of an option from the value behind an equals sign. -/
def splitName : List Char → List Char × Option (List Char)
  | [] => ([], none)
  | '=' :: cs => ([], some cs)
  | c :: cs => ((c :: (splitName cs).1), (splitName cs).2)

/-- Takes a word that starts with two hyphens, which have been removed. -/
def takeOption (options : OptionTable) (s : State) (cs : List Char) :
    Except CommandLineFault State :=
  let (name, attached) := splitName cs
  let name := String.ofList name
  match options.lookup name, attached with
  | none, _ => .error .unknownArgument
  | some .flag, some _ => .error .unwantedValue
  | some .flag, none => do give (← settle s) name (.ok .set)
  | some kind, some v => do give (← settle s) name (kind.read (String.ofList v))
  | some kind, none => do
    let s ← settle s
    pure { s with pending := some { name, kind } }

def takeWord (options : OptionTable) (s : State) (word : String) : Except CommandLineFault State :=
  match word.toList with
  | '-' :: '-' :: cs => takeOption options s cs
  | '-' :: _ :: _ => .error .unknownArgument
  | _ =>
    match s.pending with
    | some { name, kind, value := none } =>
      .ok { s with pending := some { name, kind, value := some word } }
    | _ => .error .unknownArgument

/-- Takes words up to the end, or to two hyphens alone, after which nothing may follow. -/
def takeWords (options : OptionTable) (s : State) : List String → Except CommandLineFault State
  | [] => settle s
  | word :: words =>
    if word = "--" then if words = [] then settle s else .error .unknownArgument
    else do takeWords options (← takeWord options s word) words

/-- The values that a command line gives to options. -/
def parse (options : OptionTable) (words : List String) :
    Except CommandLineFault (Table String OptionValue) :=
  (takeWords options {} words).map State.values

end CommandLine

end WafControl
