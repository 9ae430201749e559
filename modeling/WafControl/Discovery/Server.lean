import WafControl.Discovery.Stream

/-!
# The discovery server

A server serves any number of streams from one cache. It is idle between the steps below: whenever
a snapshot was set, every open stream has pushed what it had to before the next step. A server that
is shutting down ends its streams, and ends a new one at once.

Each step gives the events it caused, together with the id of the stream they came on.
-/

namespace WafControl.Discovery

/-- What a client of a stream sees. -/
inductive Event where
  | response (r : Response)
  /-- The stream ended in good order. -/
  | ended
  /-- The stream ended with a status. -/
  | failed (status : Status)
  deriving DecidableEq, Repr

/-- A stream that has not ended, and when it was opened. -/
structure OpenStream where
  stream : Stream
  opened : Nat
  deriving DecidableEq, Repr

/-- A discovery server at a moment in time, in milliseconds. -/
structure Server where
  cache : Cache := {}
  counts : Counts := {}
  streams : Table String OpenStream := {}
  draining : Bool := false
  now : Nat := 0
  deriving DecidableEq, Repr

namespace Server

/-- Removes a stream and records how long it lasted. -/
def finish (s : Server) (id : String) : Server :=
  match s.streams.find? id with
  | none => s
  | some o =>
    { s with streams := s.streams.erase id, counts := s.counts.endStream (s.now - o.opened) }

/-- Lets one open stream push what it has not seen. -/
def pushOn (s : Server) (id : String) : List Event × Server :=
  match s.streams.find? id with
  | none => ([], s)
  | some o =>
    let (responses, stream, counts) := o.stream.push s.counts s.cache
    (responses.map .response,
      { s with counts, streams := s.streams.insert id { o with stream } })

/-- Does something on every stream of a list, in order. -/
def onEach (step : Server → String → List Event × Server) (s : Server) :
    List String → List (String × List Event) × Server
  | [] => ([], s)
  | id :: ids =>
    let (events, s) := step s id
    let (rest, s) := s.onEach step ids
    ((id, events) :: rest, s)

/-- Lets every open stream push what it has not seen. -/
def pushAll (s : Server) : List (String × List Event) × Server :=
  s.onEach pushOn s.streams.keys

/-- Sets snapshots of a node one right after the other. -/
def set (s : Server) (node : String) (snapshots : List Snapshot) :
    List (String × List Event) × Server :=
  { s with cache := snapshots.foldl (fun c x => c.set node x) s.cache }.pushAll

/-- Ends a stream in good order. -/
def endStream (s : Server) (id : String) : List Event × Server :=
  if s.streams.contains id then ([.ended], s.finish id) else ([], s)

/-- Opens a stream of a service. One that was open under the id ends. -/
def openStream (s : Server) (id : String) (fixed : Option ResourceType) : List Event × Server :=
  let (before, s) := s.endStream id
  let s : Server :=
    { s with
      streams := s.streams.insert id ⟨{ fixed }, s.now⟩
      counts := s.counts.openStream }
  let (after, s) := if s.draining then s.endStream id else ([], s)
  (before ++ after, s)

/-- Hands requests to a stream, one after the other. One that fails ends the stream, and those
after it are lost. -/
def sendAll (s : Server) (id : String) : List Request → List Event × Server
  | [] => ([], s)
  | r :: rs =>
    match s.streams.find? id with
    | none => ([], s)
    | some o =>
      match o.stream.request s.counts s.cache r with
      | .error status => ([.failed status], s.finish id)
      | .ok (response, stream, counts, cache) =>
        let s := { s with counts, cache, streams := s.streams.insert id { o with stream } }
        let (events, s) := s.sendAll id rs
        ((response.map Event.response).toList ++ events, s)

/-- Hands requests to a stream; none if there are any and the stream is over. -/
def send (s : Server) (id : String) (rs : List Request) : Option (List Event) × Server :=
  if rs.isEmpty || s.streams.contains id then
    let (events, s) := s.sendAll id rs
    (some events, s)
  else (none, s)

/-- The client drops a stream: nobody sees its end. -/
def reset (s : Server) (id : String) : Server := s.finish id

def fetch (s : Server) (t : ResourceType) (r : Request) : Except Status Response × Server :=
  match Discovery.fetch s.counts s.cache t r with
  | .error status => (.error status, s)
  | .ok (response, counts) => (.ok response, { s with counts })

/-- Begins to shut down: all streams end. -/
def drain (s : Server) : List (String × List Event) × Server :=
  { s with draining := true }.onEach endStream s.streams.keys

def advance (s : Server) (ms : Nat) : Server := { s with now := s.now + ms }

end Server

end WafControl.Discovery
