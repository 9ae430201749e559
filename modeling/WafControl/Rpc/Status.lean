import WafControl.Text.Quoted

/-!
# Call statuses

A remote call that fails ends with a status: a code and a message. Codes are the numbers 0 to 16.
A client reads any other number as `unknown`, and where a call ends with `ok` but without an
answer, it reports that the answer is missing.

A status is sent as the fields of a header. The message is written in printable ASCII there, with
every other byte as a percent sign and two digits. A client does not read a header of
`Header.limit` bytes or more; the call then fails with a status of the client's own.
-/

namespace WafControl

/-- The codes a call can end with. -/
inductive StatusCode where
  | ok | cancelled | unknown | invalidArgument | deadlineExceeded | notFound | alreadyExists
  | permissionDenied | resourceExhausted | failedPrecondition | aborted | outOfRange
  | unimplemented | internal | unavailable | dataLoss | unauthenticated
  deriving DecidableEq, Repr

namespace StatusCode

def all : List StatusCode :=
  [ok, cancelled, unknown, invalidArgument, deadlineExceeded, notFound, alreadyExists,
    permissionDenied, resourceExhausted, failedPrecondition, aborted, outOfRange, unimplemented,
    internal, unavailable, dataLoss, unauthenticated]

def number : StatusCode → Nat
  | ok => 0 | cancelled => 1 | unknown => 2 | invalidArgument => 3 | deadlineExceeded => 4
  | notFound => 5 | alreadyExists => 6 | permissionDenied => 7 | resourceExhausted => 8
  | failedPrecondition => 9 | aborted => 10 | outOfRange => 11 | unimplemented => 12
  | internal => 13 | unavailable => 14 | dataLoss => 15 | unauthenticated => 16

def name : StatusCode → String
  | ok => "Ok" | cancelled => "Cancelled" | unknown => "Unknown"
  | invalidArgument => "InvalidArgument" | deadlineExceeded => "DeadlineExceeded"
  | notFound => "NotFound" | alreadyExists => "AlreadyExists"
  | permissionDenied => "PermissionDenied" | resourceExhausted => "ResourceExhausted"
  | failedPrecondition => "FailedPrecondition" | aborted => "Aborted"
  | outOfRange => "OutOfRange" | unimplemented => "Unimplemented" | internal => "Internal"
  | unavailable => "Unavailable" | dataLoss => "DataLoss"
  | unauthenticated => "Unauthenticated"

/-- The code of a number, `unknown` for a number that is none. -/
def ofNumber (n : Int) : StatusCode :=
  if n < 0 then unknown else (all[n.toNat]?).getD unknown

theorem ofNumber_number (c : StatusCode) : ofNumber c.number = c := by
  cases c <;> rfl

end StatusCode

/-- How a call failed. -/
structure Status where
  code : StatusCode
  message : String
  deriving DecidableEq, Repr

/-- The status in one line; it has no details and no metadata. -/
def Status.display (s : Status) : String :=
  "status: " ++ s.code.name ++ ", message: " ++ Text.quoted s.message ++
    ", details: [], metadata: MetadataMap \x7b headers: \x7b\x7d \x7d"

namespace Header

/-- The bytes that a message cannot contain as they are: what is not printable, and what has a
meaning of its own. -/
def isReserved (b : UInt8) : Bool :=
  b ≤ 0x20 || 0x7f ≤ b || "\"#%<>\x60?\x7b\x7d".toUTF8.toList.contains b

/-- The length of a message as it is written in a header. -/
def messageLength (message : String) : Nat :=
  message.toUTF8.toList.foldr (fun b n => n + if isReserved b then 3 else 1) 0

/-- The size of a field, which is its name and its value and a fixed cost. -/
def fieldSize (name : String) (valueLength : Nat) : Nat := name.utf8ByteSize + valueLength + 32

/-- The length of a date, such as that of an epoch: `Thu, 01 Jan 1970 00:00:00 GMT`. -/
def dateLength : Nat := 29

/-- The size of the header that ends a call with a status. A message that is empty is left out. -/
def size (code : StatusCode) (message : String) : Nat :=
  fieldSize ":status" "200".length + fieldSize "content-type" "application/grpc".length +
    fieldSize "grpc-status" (toString code.number).length +
    (if message = "" then 0 else fieldSize "grpc-message" (messageLength message)) +
    fieldSize "date" dateLength

/-- The size from which on a header is not read. -/
def limit : Nat := 16384

end Header

/-- The status of a call whose header the client does not read. -/
def Status.unreadable : Status := ⟨.internal, "h2 protocol error: http2 error"⟩

/-- The status that a client sees when a server ends a call with a code, a message and no
answer. -/
def Status.received (code : Int) (message : String) : Status :=
  let code := StatusCode.ofNumber code
  if Header.limit ≤ Header.size code message then .unreadable
  else
    match code with
    | .ok => ⟨.internal, "Missing response message."⟩
    | code => ⟨code, message⟩

end WafControl
