/-!
# Protocol buffer messages

A message is a list of numbered fields in ascending order. A field holds a number, a text or a
message; on the wire it is a tag, which joins the field's number and its wire type, followed by the
number in groups of seven bits, or by a length and so many bytes.

A field that has its default value is left out, unless it belongs to a choice of fields, where its
presence says which of them was chosen. `optText`, `optVarint` and `optMessage` leave defaults out;
the readers `text`, `varint` and `message` give the default for a field that is missing.
-/

namespace WafControl.Protobuf

/-- A numbered field. A number is a 64-bit one in two's complement. -/
inductive Field where
  | varint (number : Nat) (value : Int)
  | text (number : Nat) (value : String)
  | message (number : Nat) (fields : List Field)
  deriving Repr

abbrev Message := List Field

/-! ### Bytes -/

/-- A number in groups of seven bits, lowest first; all but the last have the highest bit set. -/
def varintBytes (n : Nat) : List UInt8 :=
  if n < 128 then [n.toUInt8] else (n % 128 + 128).toUInt8 :: varintBytes (n / 128)
termination_by n

/-- The 64 bits of a number in two's complement. -/
def twosComplement (n : Int) : Nat := (n % UInt64.size).toNat

def textBytes (s : String) : List UInt8 := s.toUTF8.toList

/-- The tag of a field with a wire type. -/
def tagBytes (number wireType : Nat) : List UInt8 := varintBytes (number * 8 + wireType)

def lengthPrefixed (bytes : List UInt8) : List UInt8 := varintBytes bytes.length ++ bytes

mutual

def Field.encode : Field → List UInt8
  | .varint k n => tagBytes k 0 ++ varintBytes (twosComplement n)
  | .text k s => tagBytes k 2 ++ lengthPrefixed (textBytes s)
  | .message k fields => tagBytes k 2 ++ lengthPrefixed (encodeAll fields)

/-- The bytes of the fields of a message, one after the other. -/
def encodeAll : List Field → List UInt8
  | [] => []
  | f :: fs => f.encode ++ encodeAll fs

end

def Message.encode (m : Message) : List UInt8 := encodeAll m

/-! ### Writing fields -/

/-- A text field, left out when empty. -/
def optText (number : Nat) (s : String) : Message := if s = "" then [] else [.text number s]

/-- A number field, left out when zero. -/
def optVarint (number : Nat) (n : Int) : Message := if n = 0 then [] else [.varint number n]

/-- The bytes of a message as a field, left out when there are none. -/
def optMessage (number : Nat) (m : Message) : Message :=
  match m with
  | [] => []
  | _ :: _ => [.message number m]

/-- A message of any type, behind the name of its type. -/
def anyOf (typeUrl : String) (m : Message) : Message := optText 1 typeUrl ++ optMessage 2 m

/-! ### Reading fields -/

/-- The number in the first field of that number, zero where there is none. -/
def varint (number : Nat) : Message → Int
  | [] => 0
  | .varint k n :: fs => if k = number then n else varint number fs
  | _ :: fs => varint number fs

/-- The text in the first field of that number, empty where there is none. -/
def text (number : Nat) : Message → String
  | [] => ""
  | .text k s :: fs => if k = number then s else text number fs
  | _ :: fs => text number fs

/-- The message in the first field of that number, if there is one. -/
def message? (number : Nat) : Message → Option Message
  | [] => none
  | .message k m :: fs => if k = number then some m else message? number fs
  | _ :: fs => message? number fs

/-- The message in the first field of that number, without fields where there is none. -/
def message (number : Nat) (m : Message) : Message := (message? number m).getD []

def texts (number : Nat) : Message → List String
  | [] => []
  | .text k s :: fs => if k = number then s :: texts number fs else texts number fs
  | _ :: fs => texts number fs

def messages (number : Nat) : Message → List Message
  | [] => []
  | .message k m :: fs => if k = number then m :: messages number fs else messages number fs
  | _ :: fs => messages number fs

end WafControl.Protobuf
