/-!
# Addresses of requests

A request is addressed by an absolute address (`http://host:port/path?query`), by a host and a port
alone, by a path alone, or by a star. `RequestTarget.isValid` says which texts are such addresses.
They are judged by their UTF-8 bytes, so that bytes beyond ASCII may stand in paths and queries
only. A server is addressed likewise, or by the path of its socket, about which nothing is asked
(`RequestTarget.isServer`).

An authority is scanned once from the front. Its colons are counted anew after a closing bracket and
after an at sign, since those end an IPv6 address and a user name; what is left must have one colon
at most.
-/

namespace WafControl

namespace RequestTarget

def bytes (s : String) : List Nat := s.toUTF8.toList.map UInt8.toNat

def isDigit (b : Nat) : Bool := decide (48 ≤ b ∧ b ≤ 57)

def isLetter (b : Nat) : Bool := decide (65 ≤ b ∧ b ≤ 90) || decide (97 ≤ b ∧ b ≤ 122)

/-- Whether a byte is one of the characters of a text. -/
def oneOf (chars : String) (b : Nat) : Bool := chars.toList.any fun c => c.toNat == b

/-- The bytes of a scheme: letters, digits, plus, minus, point and tilde. -/
def isSchemeByte (b : Nat) : Bool := isLetter b || isDigit b || oneOf "+-.~" b

/-- The bytes of an authority and what ends it. -/
def isAuthorityByte (b : Nat) : Bool :=
  isLetter b || isDigit b || oneOf "!#$&'()*+,-./:;=?@[]_~" b

def isPathByte (b : Nat) : Bool :=
  oneOf "!\"\x7b\x7d" b || decide (36 ≤ b ∧ b ≤ 59) || b == 61 || decide (64 ≤ b ∧ b ≤ 95) ||
    decide (97 ≤ b ∧ b ≤ 122) || b == 124 || b == 126 || decide (128 ≤ b)

def isQueryByte (b : Nat) : Bool :=
  b == 33 || decide (36 ≤ b ∧ b ≤ 59) || b == 61 || decide (63 ≤ b ∧ b ≤ 126) || decide (128 ≤ b)

/-- Whether bytes are a query, up to a number sign. -/
def isQuery : List Nat → Bool
  | [] => true
  | b :: bs => if b = 35 then true else isQueryByte b && isQuery bs

/-- Whether bytes are a path, up to a question mark with a query or a number sign. -/
def isPath : List Nat → Bool
  | [] => true
  | b :: bs =>
    if b = 63 then isQuery bs
    else if b = 35 then true
    else isPathByte b && isPath bs

/-- How far the scan of an authority has come. -/
structure Scan where
  colons : Nat := 0
  opened : Bool := false
  closed : Bool := false
  percent : Bool := false
  /-- How many bytes stand before and at the last at sign. -/
  user : Nat := 0
  length : Nat := 0
  deriving DecidableEq, Repr

namespace Scan

/-- Takes one more byte of an authority; none if it cannot stand there. -/
def step? (s : Scan) (b : Nat) : Option Scan :=
  let n := { s with length := s.length + 1 }
  if b = 58 then if 8 ≤ s.colons then none else some { n with colons := s.colons + 1 }
  else if b = 91 then
    if s.percent || s.opened then none else some { n with opened := true }
  else if b = 93 then
    if !s.opened || s.closed then none
    else some { n with closed := true, colons := 0, percent := false }
  else if b = 64 then some { n with user := n.length, colons := 0, percent := false }
  else if isAuthorityByte b then some n
  else if b = 37 then some { n with percent := true }
  else none

/-- Whether the scan may end here. -/
def complete (s : Scan) : Bool :=
  s.opened == s.closed && decide (s.colons ≤ 1) && (s.length == 0 || s.user != s.length) &&
    !s.percent

end Scan

/-- The bytes that end an authority. -/
def endsAuthority (b : Nat) : Bool := b == 47 || b == 63 || b == 35

/-- Scans an authority; gives what follows it, and whether it is empty. -/
def authority? (s : Scan) : List Nat → Option (List Nat × Bool)
  | [] => if s.complete then some ([], s.length == 0) else none
  | b :: bs =>
    if endsAuthority b then if s.complete then some (b :: bs, s.length == 0) else none
    else (s.step? b).bind fun s => authority? s bs

/-- Whether bytes are an authority and nothing else. -/
def isAuthority (bs : List Nat) : Bool :=
  match authority? {} bs with
  | some ([], _) => true
  | _ => false

/-- Whether bytes are an authority that is not empty, and perhaps a path or a query. -/
def isAuthorityAndPath (bs : List Nat) : Bool :=
  match authority? {} bs with
  | some (rest, nothing) => !nothing && isPath rest
  | none => false

def longestScheme : Nat := 64

/-- What comes of looking for a scheme: what stands behind the mark that ends it. A scheme that is
too long is no address at all. -/
inductive SchemeSplit where
  | none
  | tooLong
  | after (rest : List Nat)
  deriving DecidableEq, Repr

/-- Looks for the end of a scheme, after so many bytes of it. -/
def splitScheme (taken : Nat) : List Nat → SchemeSplit
  | 58 :: 47 :: 47 :: rest => if longestScheme < taken then .tooLong else .after rest
  | b :: bs => if isSchemeByte b then splitScheme (taken + 1) bs else .none
  | [] => .none

/-- The longest address, in bytes. -/
def longest : Nat := 65534

/-- The path that a request for a text starting with a slash goes to, if it is an address. -/
def path? (s : String) : Option String :=
  if isPath (bytes s) && decide ((bytes s).length ≤ longest) then
    some (String.ofList (s.toList.takeWhile fun c => c != '?' && c != '#'))
  else none

/-- Whether a text is the address of a request. -/
def isValid (s : String) : Bool :=
  match bytes s with
  | [] => false
  | [47] => true
  | [42] => true
  | [b] => isAuthority [b]
  | b :: bs =>
    if longest < (b :: bs).length then false
    else if b = 47 then isPath (b :: bs)
    else
      match splitScheme 0 (b :: bs) with
      | .tooLong => false
      | .after rest => isAuthorityAndPath rest
      | .none => isAuthority (b :: bs)

/-- Whether a text is the address of a server: one of requests, or the path of a socket. -/
def isServer (s : String) : Bool := s.startsWith "unix:" || isValid s

end RequestTarget

end WafControl
