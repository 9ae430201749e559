import Mathlib.Logic.Function.Basic
import WafControl.Proofs.Exchanges
import WafControl.Proofs.Transcripts

/-!
# A stream and its proxy

In a dialogue a stream serves one proxy, and what they send each other is delivered in order.
Snapshots are published at any time; those of the proxy's node have different versions.

For each type the proxy says at some time which names it wants, and again whenever it wants others,
with the nonce of the last response it received, which is empty before the first. Each response it
received it answers in order, with that response's nonce and the names it wants by then. Its first
request says which node it is.
-/

namespace WafControl.Discovery

/-- What a proxy adds to its requests. -/
structure Header where
  versionInfo : String := ""
  node : Option String := none
  deriving DecidableEq, Repr

structure Dialogue where
  server : Transcript
  /-- The proxy's node. -/
  node : String
  /-- The requests on their way to the stream, oldest first. -/
  up : List Request := []
  /-- The responses on their way to the proxy, oldest first. -/
  down : List Response := []
  interest : ResourceType → Interest := fun _ => {}
  /-- Whether the proxy has said which node it is. -/
  introduced : Bool := false
  /-- The snapshots of the node, latest first. -/
  published : List Snapshot := []

namespace Dialogue

/-- A stream that was just opened. -/
def start (fixed : Option ResourceType) (cache : Cache) (node : String) : Dialogue :=
  { server := .start fixed cache, node, published := (cache.get node).toList }

variable (d : Dialogue)

def fixed : Option ResourceType := d.server.session.stream.fixed

def subscriptions : Subscriptions := d.server.session.stream.subscriptions

/-- A request for a type; the first of all says the proxy's node. -/
def request (t : ResourceType) (h : Header) (names : List String) (nonce : String)
    (error : Option (Int × String)) : Request where
  versionInfo := h.versionInfo
  node := if d.introduced then h.node else some d.node
  names := names
  typeUrl := t.url
  nonce := nonce
  error := error

/-- The proxy sends a request for a type. -/
def ask (t : ResourceType) (r : Request) (interest : Interest) : Dialogue :=
  { d with
    up := d.up ++ [r]
    interest := Function.update d.interest t interest
    introduced := true }

/-- A snapshot is published, unless it is one of the proxy's node with an earlier version. -/
def publish (node : String) (x : Snapshot) : Dialogue :=
  if node = d.node then
    if x.version ∈ d.published.map Snapshot.version then d
    else { d with server := d.server.publish node x, published := x :: d.published }
  else { d with server := d.server.publish node x }

/-- The stream takes up the next request. -/
def handle : Dialogue :=
  match d.up with
  | [] => d
  | r :: up =>
    { d with
      server := d.server.request r
      up
      down := d.down ++ (d.server.session.request r).1.toList }

/-- The stream takes up what it has not seen. -/
def push : Dialogue :=
  { d with server := d.server.push, down := d.down ++ d.server.session.push.1 }

/-- The proxy takes up the next response. -/
def receive : Dialogue :=
  match d.down with
  | [] => d
  | r :: down =>
    { d with down, interest := Function.update d.interest r.type ((d.interest r.type).receive r) }

/-- The proxy wants names of a type, which it can only ask for on a stream of that type or of
all. -/
def want (t : ResourceType) (names : List String) (h : Header) : Dialogue :=
  let i := d.interest t
  if d.fixed = none ∨ d.fixed = some t then
    if i.asked = true ∧ names = i.names then d
    else d.ask t (d.request t h names (if i.asked then i.nonce else "") none) (i.want names)
  else d

/-- The proxy answers the oldest response of a type that it has received, with an error if it
rejects it. -/
def answer (t : ResourceType) (error : Option (Int × String)) (h : Header) : Dialogue :=
  let i := d.interest t
  match i.owed with
  | [] => d
  | r :: _ => d.ask t (d.request t h i.names r.nonce error) (i.answer error.isSome)

inductive Step where
  | publish (node : String) (x : Snapshot)
  | handle
  | push
  | receive
  | want (t : ResourceType) (names : List String) (h : Header)
  | answer (t : ResourceType) (error : Option (Int × String)) (h : Header)

def step (d : Dialogue) : Step → Dialogue
  | .publish node x => d.publish node x
  | .handle => d.handle
  | .push => d.push
  | .receive => d.receive
  | .want t names h => d.want t names h
  | .answer t error h => d.answer t error h

def run (d : Dialogue) (steps : List Step) : Dialogue := steps.foldl step d

end Dialogue

/-! ### The exchange about each type -/

theorem ResourceType.ofUrl?_url (t : ResourceType) : ofUrl? t.url = some t := by
  cases t <;> decide +kernel

/-- The exchange about a type on a stream that recorded names and sent responses. -/
def Exchange.about (fixed : Option ResourceType) (t : ResourceType) (i : Interest)
    (up : List Request) (down : List Response) (subs : Subscriptions) (log : List Sending) :
    Exchange where
  asks := up.filter fun r => decide (Subscriptions.typeOf? fixed r = some t)
  answers := down.filter fun r => decide (r.type = t)
  interest := i
  names := (subs.subscription t).names
  history := ((log.filter fun y => decide (y.response.type = t)).map Sending.response).reverse

namespace Exchange

variable {fixed : Option ResourceType} {t t' : ResourceType} {i : Interest} {up : List Request}
  {down : List Response} {subs : Subscriptions} {log : List Sending}

theorem nonce_about (h : Recorded log subs) :
    (about fixed t i up down subs log).nonce = (subs.subscription t).nonce := by
  rw [(h.last t).1, Exchange.nonce, about, List.getLast?_reverse, List.head?_map,
    List.head?_filter, lastOf?]

theorem stale_about_iff (h : Recorded log subs) (r : Request) :
    (about fixed t i up down subs log).Stale r ↔
      Subscriptions.stale (subs.subscription t) r = true := by
  simp [Stale, nonce_about h, Subscriptions.stale]

theorem about_sent (x : Snapshot) (ahead : Bool) :
    about fixed t i up (down ++ [subs.response t x]) (subs.sent t x)
        (⟨subs.response t x, ahead⟩ :: log) =
      { about fixed t i up down subs log with
        answers := (about fixed t i up down subs log).answers ++ [subs.response t x]
        history := (about fixed t i up down subs log).history ++ [subs.response t x] } := by
  simp [about, Subscriptions.response]

theorem about_sent_of_ne (h : t' ≠ t) (x : Snapshot) (ahead : Bool) :
    about fixed t' i up (down ++ [subs.response t x]) (subs.sent t x)
        (⟨subs.response t x, ahead⟩ :: log) = about fixed t' i up down subs log := by
  simp [about, Subscriptions.response, h.symm, subs.subscription_sent_of_ne h]

theorem about_cons {r : Request} (h : Subscriptions.typeOf? fixed r = some t) :
    (about fixed t i (r :: up) down subs log).asks =
      r :: (about fixed t i up down subs log).asks := by
  simp [about, h]

theorem about_cons_of_ne {r : Request} (h : Subscriptions.typeOf? fixed r ≠ some t) :
    about fixed t i (r :: up) down subs log = about fixed t i up down subs log := by
  simp [about, h]

theorem about_append {r : Request} (h : Subscriptions.typeOf? fixed r = some t) :
    about fixed t i (up ++ [r]) down subs log =
      { about fixed t i up down subs log with
        asks := (about fixed t i up down subs log).asks ++ [r] } := by
  simp [about, h]

theorem about_append_of_ne {r : Request} (h : Subscriptions.typeOf? fixed r ≠ some t) :
    about fixed t i (up ++ [r]) down subs log = about fixed t i up down subs log := by
  simp [about, h]

theorem about_record (names : List String) :
    about fixed t i up down (subs.record t names) log =
      { about fixed t i up down subs log with names } := by
  simp [about]

theorem about_record_of_ne (h : t' ≠ t) (names : List String) :
    about fixed t' i up down (subs.record t names) log = about fixed t' i up down subs log := by
  simp [about, subs.subscription_record_of_ne h]

end Exchange

namespace Dialogue

variable (d : Dialogue)

def exchange (t : ResourceType) : Exchange :=
  .about d.fixed t (d.interest t) d.up d.down d.subscriptions d.server.sent

theorem typeOf?_request {t : ResourceType} (hf : d.fixed = none ∨ d.fixed = some t) (h : Header)
    (names : List String) (nonce : String) (error : Option (Int × String)) :
    Subscriptions.typeOf? d.fixed (d.request t h names nonce error) = some t := by
  rcases hf with hf | hf
  · rw [hf]
    exact t.ofUrl?_url
  · rw [hf]
    rfl

variable {d} {t t' : ResourceType}

theorem exchange_ask {r : Request} {i : Interest}
    (hr : Subscriptions.typeOf? d.fixed r = some t) :
    (d.ask t r i).exchange t =
      { d.exchange t with asks := (d.exchange t).asks ++ [r], interest := i } := by
  change Exchange.about d.fixed t (Function.update d.interest t i t) (d.up ++ [r]) _ _ _ = _
  rw [Function.update_self, Exchange.about_append hr]
  rfl

theorem exchange_ask_of_ne {r : Request} {i : Interest}
    (hr : Subscriptions.typeOf? d.fixed r = some t) (h : t' ≠ t) :
    (d.ask t r i).exchange t' = d.exchange t' := by
  have hr' : Subscriptions.typeOf? d.fixed r ≠ some t' := by
    rw [hr]
    exact fun ht => h (Option.some.inj ht).symm
  change Exchange.about d.fixed t' (Function.update d.interest t i t') (d.up ++ [r]) _ _ _ = _
  rw [Function.update_of_ne h, Exchange.about_append_of_ne hr']
  rfl

end Dialogue

end WafControl.Discovery
