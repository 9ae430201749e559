import WafControl.Discovery.Metrics

/-!
# Subscriptions of a discovery stream

A stream remembers, for each type its proxy has named, the names last asked for, the nonce of the
last response and the version that response carried.

A request that answers a response other than the last one of its type is stale and has no effect. A
rejection is counted and its names are kept, but nothing is sent until the next snapshot. Any other
request is answered, unless it accepts the current version without changing its names. A new
snapshot is pushed to every type that was not sent its version, clusters first.

Nonces count the responses of the stream over all types.
-/

namespace WafControl.Discovery

/-- What one type of a stream was last asked and sent. -/
structure Subscription where
  names : List String := []
  nonce : Option String := none
  sentVersion : Option String := none
  deriving DecidableEq, Repr

/-- The subscriptions of a stream and the number of its responses. -/
structure Subscriptions where
  types : Table ResourceType Subscription := {}
  nonces : Nat := 0
  deriving DecidableEq, Repr

namespace Subscriptions

/-- The subscription to a type; a type that was never named has an empty one. -/
def subscription (s : Subscriptions) (t : ResourceType) : Subscription :=
  (s.types.find? t).getD {}

/-- Records the names asked for. -/
def record (s : Subscriptions) (t : ResourceType) (names : List String) : Subscriptions :=
  { s with types := s.types.insert t { s.subscription t with names } }

/-- Sends the resources of a type that the names ask for. -/
def respond (s : Subscriptions) (m : Counts) (t : ResourceType) (names : List String)
    (snapshot : Snapshot) : Response × Subscriptions × Counts :=
  let nonce := toString (s.nonces + 1)
  let sent := { s.subscription t with nonce := some nonce, sentVersion := some snapshot.version }
  ({ version := snapshot.version, type := t, nonce,
      resources := served snapshot.resources t names },
    ⟨s.types.insert t sent, s.nonces + 1⟩, m.respond t)

/-- Whether a request answers a response that is not the last one of its type. -/
def stale (sub : Subscription) (r : Request) : Bool :=
  r.nonce != "" && sub.nonce != some r.nonce

/-- Whether a request that is not stale accepts the version without asking for anything else. -/
def acknowledges (sub : Subscription) (r : Request) (version : String) : Bool :=
  r.nonce != "" && sub.names == r.names && sub.sentVersion == some version

/-- Handles a request for a type, given the node's snapshot if it has one. -/
def handleTyped (s : Subscriptions) (m : Counts) (t : ResourceType) (r : Request)
    (snapshot : Option Snapshot) : Option Response × Subscriptions × Counts :=
  let sub := s.subscription t
  if stale sub r then (none, s.record t sub.names, m)
  else if r.error.isSome then (none, s.record t r.names, m.reject t)
  else
    match snapshot with
    | none => (none, s.record t r.names, m)
    | some current =>
      if acknowledges sub r current.version then (none, s.record t r.names, m)
      else
        let (response, s, m) := (s.record t r.names).respond m t r.names current
        (some response, s, m)

/-- The type a request is for: that of the service, or else the one its URL names. -/
def typeOf? (fixed : Option ResourceType) (r : Request) : Option ResourceType :=
  fixed <|> ResourceType.ofUrl? r.typeUrl

/-- Handles a request. One for an unknown type has no effect. -/
def handleRequest (s : Subscriptions) (m : Counts) (fixed : Option ResourceType) (r : Request)
    (snapshot : Option Snapshot) : Option Response × Subscriptions × Counts :=
  match typeOf? fixed r with
  | none => (none, s, m)
  | some t => s.handleTyped m t r snapshot

/-- Whether a type is subscribed to and was not sent the version. -/
def outdated (s : Subscriptions) (version : String) (t : ResourceType) : Bool :=
  match s.types.find? t with
  | none => false
  | some sub => sub.sentVersion != some version

/-- Sends the types one after the other, each with the names recorded for it. -/
def pushAll (s : Subscriptions) (m : Counts) (snapshot : Snapshot) :
    List ResourceType → List Response × Subscriptions × Counts
  | [] => ([], s, m)
  | t :: ts =>
    let (response, s, m) := s.respond m t (s.subscription t).names snapshot
    let (responses, s, m) := s.pushAll m snapshot ts
    (response :: responses, s, m)

/-- Pushes a new snapshot to every subscribed type that was not sent its version. -/
def handleSnapshot (s : Subscriptions) (m : Counts) (snapshot : Snapshot) :
    List Response × Subscriptions × Counts :=
  s.pushAll m snapshot (ResourceType.pushOrder.filter (s.outdated snapshot.version))

end Subscriptions

end WafControl.Discovery
