/-!
# Internet addresses

IPv4 and IPv6 addresses, socket addresses, and their texts. An IPv4 address is written with four
decimal numbers; an IPv6 address in its shortest form, in which the longest run of at least two zero
groups is left out, and the groups of an embedded IPv4 address are written as that address.

Readers take characters from the front of a list and give back what is left; an address as a whole
is read by `Ip.ofString?` and `SocketAddress.ofString?`.
-/

namespace WafControl

/-- An IPv4 address, by its four bytes. -/
structure Ipv4 where
  a : UInt8
  b : UInt8
  c : UInt8
  d : UInt8
  deriving DecidableEq, Repr

/-- An IPv6 address, by its eight groups. -/
structure Ipv6 where
  groups : List UInt16
  length_eq : groups.length = 8
  deriving DecidableEq, Repr

inductive Ip where
  | v4 (ip : Ipv4)
  | v6 (ip : Ipv6)
  deriving DecidableEq, Repr

/-- An address with a port. An IPv6 address may name the scope it is valid in. -/
structure SocketAddress where
  ip : Ip
  port : UInt16
  scope : UInt32 := 0
  deriving DecidableEq, Repr

namespace Net

/-- The value of a digit in a base up to 16. -/
def digit? (base : Nat) (c : Char) : Option Nat :=
  let n :=
    if '0' ≤ c ∧ c ≤ '9' then c.toNat - 48
    else if 'a' ≤ c ∧ c ≤ 'f' then c.toNat - 87
    else if 'A' ≤ c ∧ c ≤ 'F' then c.toNat - 55
    else base
  if n < base then some n else none

/-- The digits at the front. -/
def frontDigits (base : Nat) : List Char → List Nat × List Char
  | [] => ([], [])
  | c :: cs =>
    match digit? base c with
    | none => ([], c :: cs)
    | some n => (n :: (frontDigits base cs).1, (frontDigits base cs).2)

/-- Reads a number below `limit`, with at most `maxDigits` digits if there is such a bound. -/
def number? (base limit : Nat) (maxDigits : Option Nat) (cs : List Char) :
    Option (Nat × List Char) :=
  let (digits, rest) := frontDigits base cs
  let n := digits.foldl (fun n d => n * base + d) 0
  if digits = [] ∨ limit ≤ n ∨ (maxDigits.any fun most => decide (most < digits.length)) then none
  else some (n, rest)

/-- Reads a byte in decimal, without a needless zero in front. -/
def byte? (cs : List Char) : Option (UInt8 × List Char) :=
  match cs with
  | '0' :: rest => if (frontDigits 10 rest).1 = [] then some (0, rest) else none
  | cs => (number? 10 256 (some 3) cs).map fun (n, rest) => (n.toUInt8, rest)

/-- Takes the given character from the front. -/
def take? (c : Char) : List Char → Option (List Char)
  | [] => none
  | d :: cs => if d = c then some cs else none

def ipv4? (cs : List Char) : Option (Ipv4 × List Char) := do
  let (a, cs) ← byte? cs
  let (b, cs) ← byte? (← take? '.' cs)
  let (c, cs) ← byte? (← take? '.' cs)
  let (d, cs) ← byte? (← take? '.' cs)
  pure (⟨a, b, c, d⟩, cs)

/-- The two groups that an IPv4 address fills. -/
def groupsOf (ip : Ipv4) : List UInt16 :=
  [ip.a.toUInt16 * 256 + ip.b.toUInt16, ip.c.toUInt16 * 256 + ip.d.toUInt16]

/-- Reads up to `limit` groups; a colon stands before each but the first. An IPv4 address in the
place of two groups ends them. Gives the groups, and whether they end so. -/
def groups : Nat → Bool → List Char → List UInt16 × Bool × List Char
  | 0, _, cs => ([], false, cs)
  | limit + 1, first, cs =>
    match if first then some cs else take? ':' cs with
    | none => ([], false, cs)
    | some start =>
      match if limit = 0 then none else ipv4? start with
      | some (ip, rest) => (groupsOf ip, true, rest)
      | none =>
        match number? 16 65536 (some 4) start with
        | none => ([], false, cs)
        | some (n, rest) =>
          let (more, embedded, rest) := groups limit false rest
          (n.toUInt16 :: more, embedded, rest)

def ipv6OfGroups? (gs : List UInt16) : Option Ipv6 :=
  if h : gs.length = 8 then some ⟨gs, h⟩ else none

/-- Reads an IPv6 address. Two colons stand for as many zero groups as are left out, and for one
at least. -/
def ipv6? (cs : List Char) : Option (Ipv6 × List Char) := do
  let (head, embedded, cs) := groups 8 true cs
  if head.length = 8 then pure (← ipv6OfGroups? head, cs)
  else if embedded then none
  else
    let cs ← take? ':' (← take? ':' cs)
    let (tail, _, cs) := groups (7 - head.length) true cs
    let zeros := List.replicate (8 - head.length - tail.length) 0
    pure (← ipv6OfGroups? (head ++ zeros ++ tail), cs)

/-- Reads a port after a colon. -/
def port? (cs : List Char) : Option (UInt16 × List Char) := do
  let (n, cs) ← number? 10 65536 none (← take? ':' cs)
  pure (n.toUInt16, cs)

/-- Reads a scope after a percent sign; there need not be one. -/
def scope (cs : List Char) : UInt32 × List Char :=
  match take? '%' cs with
  | none => (0, cs)
  | some rest =>
    match number? 10 UInt32.size none rest with
    | none => (0, cs)
    | some (n, rest) => (n.toUInt32, rest)

def socket4? (cs : List Char) : Option (SocketAddress × List Char) := do
  let (ip, cs) ← ipv4? cs
  let (port, cs) ← port? cs
  pure ({ ip := .v4 ip, port }, cs)

def socket6? (cs : List Char) : Option (SocketAddress × List Char) := do
  let (ip, cs) ← ipv6? (← take? '[' cs)
  let (scope, cs) := scope cs
  let (port, cs) ← port? (← take? ']' cs)
  pure ({ ip := .v6 ip, port, scope }, cs)

/-- A reading that leaves nothing. -/
def whole {α : Type} : Option (α × List Char) → Option α
  | some (a, []) => some a
  | _ => none

/-- A number in hexadecimal, in lower case. -/
def hexText (n : UInt16) : String := String.ofList (Nat.toDigits 16 n.toNat)

def groupsText (gs : List UInt16) : String := ":".intercalate (gs.map hexText)

/-- How many zero groups a list starts with. -/
def zeroRun (gs : List UInt16) : Nat := (gs.takeWhile fun g => g == 0).length

/-- The start and the length of the longest run of zero groups, the first one of several. `start`
is the number of groups in front of the list. -/
def longestRun : Nat → List UInt16 → Nat × Nat
  | start, [] => (start, 0)
  | start, g :: gs =>
    let here := zeroRun (g :: gs)
    let later := longestRun (start + 1) gs
    if later.2 ≤ here then (start, here) else later

end Net

namespace Ipv4

def ofString? (s : String) : Option Ipv4 := Net.whole (Net.ipv4? s.toList)

def display (ip : Ipv4) : String :=
  ".".intercalate ([ip.a, ip.b, ip.c, ip.d].map fun b => toString b.toNat)

end Ipv4

namespace Ipv6

def ofString? (s : String) : Option Ipv6 := Net.whole (Net.ipv6? s.toList)

/-- The IPv4 address that is embedded behind five zero groups and one of ones. -/
def embedded? (ip : Ipv6) : Option Ipv4 :=
  match ip.groups with
  | [0, 0, 0, 0, 0, 0xffff, g, h] =>
    some ⟨(g / 256).toUInt8, g.toUInt8, (h / 256).toUInt8, h.toUInt8⟩
  | _ => none

def display (ip : Ipv6) : String :=
  match ip.embedded? with
  | some v4 => "::ffff:" ++ v4.display
  | none =>
    let (start, length) := Net.longestRun 0 ip.groups
    if 1 < length then
      Net.groupsText (ip.groups.take start) ++ "::" ++
        Net.groupsText (ip.groups.drop (start + length))
    else Net.groupsText ip.groups

end Ipv6

namespace Ip

def ofString? (s : String) : Option Ip :=
  (Ipv4.ofString? s).map v4 <|> (Ipv6.ofString? s).map v6

def v4? : Ip → Option Ipv4
  | v4 ip => some ip
  | v6 _ => none

end Ip

namespace SocketAddress

def ofString? (s : String) : Option SocketAddress :=
  Net.whole (Net.socket4? s.toList) <|> Net.whole (Net.socket6? s.toList)

/-- An IPv6 address stands in brackets before the port, with its scope if it is not zero. -/
def display (a : SocketAddress) : String :=
  match a.ip with
  | .v4 ip => ip.display ++ ":" ++ toString a.port.toNat
  | .v6 ip =>
    let scope := if a.scope = 0 then "" else "%" ++ toString a.scope.toNat
    "[" ++ ip.display ++ scope ++ "]:" ++ toString a.port.toNat

end SocketAddress

end WafControl
