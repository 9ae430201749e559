import WafControl.Relay.Agent

/-!
# An agent whose parts take turns

The parts of an agent run beside each other. Here they take their steps in any order: the store
changes or begins to fail, the poller asks for the token, gets its answer and lists, an event of the
watch comes, a resync or an announcement is taken up, a slice is sent, the router takes it and asks
the store for its protections, and makes the calls it has decided on one by one. A step for which it
is not the time does nothing.

Every change gives the store a token that it never had. What was routed is kept, apart for the time
before and after the last change. How an agent runs in time is one order of these steps.
-/

namespace WafControl

/-- What the store answers for a slice. -/
inductive Lookup where
  /-- The slice belongs to no service, and nothing is asked. -/
  | unowned
  | failed (message : String)
  | listed (ps : List Protection)
  deriving DecidableEq, Repr

/-- Whether the store was asked and failed. -/
def Lookup.isFailed : Lookup → Bool
  | failed _ => true
  | unowned => false
  | listed _ => false

/-- What routing the slice learns from the store. -/
def EndpointSlice.lookup (slice : EndpointSlice) (store : Store) : Lookup :=
  match slice.serviceFqdn? with
  | none => .unowned
  | some fqdn =>
    match store.answerList (.upstream fqdn) with
    | .error e => .failed e
    | .ok ps => .listed ps

/-- A slice that was routed, what the store answered, and the calls that were decided on. -/
structure Routing where
  slice : EndpointSlice
  lookup : Lookup
  calls : List RelayCall
  deriving DecidableEq, Repr

/-- How the router routes a slice when the store is as given. -/
def Router.routing (r : Router) (slice : EndpointSlice) (store : Store) : Routing :=
  ⟨slice, slice.lookup store, (r.decide? slice store).1.toOption.getD []⟩

theorem Router.calls_routing (r : Router) {slice : EndpointSlice} {store : Store}
    {ps : List Protection} (h : slice.lookup store = .listed ps) :
    (r.routing slice store).calls = r.calls slice ps := by
  rw [EndpointSlice.lookup] at h
  cases hf : slice.serviceFqdn? with
  | none => simp [hf] at h
  | some fqdn =>
      cases hl : store.answerList (.upstream fqdn) with
      | error e => simp [hf, hl] at h
      | ok listed =>
          have heq : listed = ps := by simpa [hf, hl] using h
          simp [routing, decide?, hf, Store.list, hl, heq, Except.toOption]

theorem Router.decide?_store (r : Router) (slice : EndpointSlice) (store : Store) :
    (r.decide? slice store).2.version = store.version ∧
      (r.decide? slice store).2.protections = store.protections := by
  rw [decide?]
  cases slice.serviceFqdn? with
  | none => exact ⟨rfl, rfl⟩
  | some fqdn =>
      simp only [Store.list]
      cases store.answerList (.upstream fqdn) with
      | error e => exact ⟨rfl, rfl⟩
      | ok ps => exact ⟨rfl, rfl⟩

/-- How far a poll has come. -/
inductive PollPhase where
  | idle
  | asked
  | listing (token : String)
  deriving DecidableEq, Repr

/-- What the router is at: nothing, a slice that it took, or the calls that are still to be made for
one, the first of which may wait for its next start. -/
inductive RouterHand where
  | idle
  | holding (slice : EndpointSlice)
  | calling (calls : List RelayCall)
  | waiting (start : PendingStart) (calls : List RelayCall)
  deriving DecidableEq, Repr

namespace RouterHand

/-- The slice that is taken and not routed yet. -/
def slices : RouterHand → List EndpointSlice
  | holding slice => [slice]
  | idle => []
  | calling _ => []
  | waiting _ _ => []

@[simp] theorem slices_idle : slices idle = [] := rfl

@[simp] theorem slices_holding (slice : EndpointSlice) : slices (holding slice) = [slice] := rfl

@[simp] theorem slices_calling (calls : List RelayCall) : slices (calling calls) = [] := rfl

@[simp] theorem slices_waiting (start : PendingStart) (calls : List RelayCall) :
    slices (waiting start calls) = [] := rfl

end RouterHand

/-- The parts of an agent over a node, and what is on its way between them. -/
structure AgentParts (σ : Type) where
  store : Store
  /-- The tokens that the store has had. -/
  tokens : List String
  poller : Poller := { filter := .all }
  poll : PollPhase := .idle
  hosts : HostSignal := ⟨[], 0⟩
  hostsSeen : Nat := 0
  informer : Informer := {}
  unsent : List EndpointSlice := []
  queue : Mailbox EndpointSlice
  hand : RouterHand := .idle
  node : Supervised σ
  /-- What was routed since the store last changed, latest first. -/
  since : List Routing := []
  /-- What was routed before that, latest first. -/
  before : List Routing := []

/-- A step of one part, of the store or of the node. -/
inductive AgentStep (σ : Type) where
  | change (token : String) (ps : List Protection)
  /-- The store begins or ceases to fail, or becomes slow. -/
  | upset (ch : StoreChange)
  /-- The node changes by itself. -/
  | disturb (node : Supervised σ)
  | ask
  | answer
  | list
  | event (e : WatchEvent EndpointSlice)
  /-- All cached slices are forwarded, in the order given. -/
  | resync (slices : List EndpointSlice)
  /-- The cached slices of the announced hosts are forwarded, in the order given. -/
  | heed (slices : List EndpointSlice)
  | send
  | take
  | route
  | begin
  | resume

namespace AgentParts

variable {σ : Type}

/-- An agent that has done nothing yet. -/
def start (store : Store) (capacity : Nat) (node : Supervised σ) : AgentParts σ :=
  { store, tokens := [store.version], queue := { capacity }, node }

def change (token : String) (ps : List Protection) (s : AgentParts σ) : AgentParts σ :=
  if token ∈ s.tokens then s
  else
    { s with
      store := s.store.change { version := some token, protections := some ps }
      tokens := token :: s.tokens
      since := []
      before := s.since ++ s.before }

def upset (ch : StoreChange) (s : AgentParts σ) : AgentParts σ :=
  { s with store := s.store.change { ch with version := none, protections := none } }

def disturb (node : Supervised σ) (s : AgentParts σ) : AgentParts σ := { s with node }

def ask (s : AgentParts σ) : AgentParts σ :=
  if s.poll = .idle then { s with store := s.store.askVersion, poll := .asked } else s

/-- The token is read. -/
def answer (s : AgentParts σ) : AgentParts σ :=
  if s.poll = .asked then
    match s.store.answerVersion with
    | .error _ => { s with poll := .idle }
    | .ok token => { s with poll := if s.poller.moved token then .listing token else .idle }
  else s

/-- The protections are listed, and their hosts announced. -/
def list (s : AgentParts σ) : AgentParts σ :=
  match s.poll with
  | .idle => s
  | .asked => s
  | .listing token =>
    let (answer, store) := s.store.list s.poller.filter
    let (result, poller) := s.poller.listed token answer
    { s with store, poller, poll := .idle, hosts := s.hosts.follow result }

/-- The informer begins to forward slices. -/
def forward (slices : List EndpointSlice) (informer : Informer) (s : AgentParts σ) :
    AgentParts σ :=
  { s with informer, unsent := slices }

def event (e : WatchEvent EndpointSlice) (s : AgentParts σ) : AgentParts σ :=
  if s.unsent = [] then s.forward (s.informer.handle e).1 (s.informer.handle e).2 else s

def resync (slices : List EndpointSlice) (s : AgentParts σ) : AgentParts σ :=
  if s.unsent = [] ∧ slices.Perm s.informer.replayAll then s.forward slices s.informer else s

def heed (slices : List EndpointSlice) (s : AgentParts σ) : AgentParts σ :=
  if s.unsent = [] ∧ s.hosts.changedSince s.hostsSeen ∧
      slices.Perm (s.informer.replayHosts s.hosts.latest) then
    { s.forward slices s.informer with hostsSeen := s.hosts.sets }
  else s

/-- The informer sends a slice, if there is room for it. -/
def send (s : AgentParts σ) : AgentParts σ :=
  match s.unsent with
  | [] => s
  | slice :: unsent =>
    if 0 < s.queue.room then { s with queue := (s.queue.offer [slice]).1, unsent } else s

/-- The router takes a slice. -/
def take (s : AgentParts σ) : AgentParts σ :=
  match s.hand, s.queue.items with
  | .idle, slice :: items => { s with hand := .holding slice, queue := { s.queue with items } }
  | _, _ => s

/-- The router asks the store for the protections of the slice in hand, and decides on its calls. -/
def route (r : Router) (s : AgentParts σ) : AgentParts σ :=
  match s.hand with
  | .holding slice =>
    { s with
      store := (r.decide? slice s.store).2
      hand := .calling (r.routing slice s.store).calls
      since := r.routing slice s.store :: s.since }
  | _ => s

/-- How the hand goes on after some progress with a call. -/
def proceed (calls : List RelayCall) (s : AgentParts σ) :
    Progress × Supervised σ → AgentParts σ
  | (.finished _, node) => { s with node, hand := .calling calls }
  | (.waiting _ start, node) => { s with node, hand := .waiting start calls }

/-- The router begins the next call. -/
def begin (c : RelayController) (ops : NodeOps σ) (s : AgentParts σ) : AgentParts σ :=
  match s.hand with
  | .calling [] => { s with hand := .idle }
  | .calling (call :: calls) => s.proceed calls (c.begin ops call s.node)
  | _ => s

/-- The router goes on with a call after its wait. -/
def resume (c : RelayController) (ops : NodeOps σ) (s : AgentParts σ) : AgentParts σ :=
  match s.hand with
  | .waiting start calls => s.proceed calls (c.resume ops start s.node)
  | _ => s

def step (r : Router) (c : RelayController) (ops : NodeOps σ) (s : AgentParts σ) :
    AgentStep σ → AgentParts σ
  | .change token ps => s.change token ps
  | .upset ch => s.upset ch
  | .disturb node => s.disturb node
  | .ask => s.ask
  | .answer => s.answer
  | .list => s.list
  | .event e => s.event e
  | .resync slices => s.resync slices
  | .heed slices => s.heed slices
  | .send => s.send
  | .take => s.take
  | .route => s.route r
  | .begin => s.begin c ops
  | .resume => s.resume c ops

/-- Takes steps one after the other. -/
def run (r : Router) (c : RelayController) (ops : NodeOps σ) (s : AgentParts σ)
    (steps : List (AgentStep σ)) : AgentParts σ :=
  steps.foldl (step r c ops) s

end AgentParts

end WafControl
