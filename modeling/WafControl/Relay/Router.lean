import WafControl.Policy.Store
import WafControl.Relay.Failure
import WafControl.Relay.Instance

/-!
# Routing endpoint slices

The router turns a changed slice into calls for the relays of the pods behind it. What is wanted is
decided once per slice, from the first protection that the store lists for the slice's service; then
every pod of the slice that runs on the router's node gets the same call. `calls` is that decision,
`route` carries it out, and a call that fails does not keep the others from being made.

`RouterQueue` holds the slices that are still to be routed. A slice is either routed completely or
not begun.
-/

namespace WafControl

/-- Carries out a call for a relay, over a state of any type. -/
abbrev Reconciler (σ : Type) := RelayCall → σ → Except Failure Unit × σ

/-- A router: its node, the gateway that relays forward to, and the port that relays listen on. -/
structure Router where
  nodeName : String
  gatewayFqdn : String
  relayPort : UInt16
  deriving DecidableEq, Repr

namespace Router

variable {σ : Type}

/-- What the protections of a service want of the relays behind a slice. A protection that is on
wants them present as soon as a listener port is allocated and the slice has a TCP port. -/
def intent (r : Router) (s : EndpointSlice) (ps : List Protection) : Option Intent := do
  let protection ← ps.head?
  match protection.mode with
  | .unspecified => none
  | .off => some .absent
  | .on =>
    let (_, ingress) ← protection.ingress?
    if ingress.proxyListenerPort = 0 then none
    else
      let appPort ← s.tcpPort?
      pure (.present
        { gatewayFqdn := r.gatewayFqdn
          gatewayPort := ingress.proxyListenerPort
          appPort := appPort
          relayPort := r.relayPort })

/-- The calls for a slice, given the protections of its service. -/
def calls (r : Router) (s : EndpointSlice) (ps : List Protection) : List RelayCall :=
  match r.intent s ps with
  | none => []
  | some intent => (s.localPods r.nodeName).map fun pod => ⟨pod, intent⟩

/-- Makes calls one after the other, whatever becomes of them. -/
def dispatch (reconcile : Reconciler σ) (cs : List RelayCall) (s : σ) : σ :=
  cs.foldl (fun s c => (reconcile c s).2) s

/-- The calls that routing a slice makes. A slice without a service makes none and asks for
nothing; otherwise the protections of its service are listed. -/
def decide? (r : Router) (slice : EndpointSlice) (store : Store) :
    Except String (List RelayCall) × Store :=
  match slice.serviceFqdn? with
  | none => (.ok [], store)
  | some fqdn =>
    match store.list (.upstream fqdn) with
    | (.error e, store) => (.error e, store)
    | (.ok ps, store) => (.ok (r.calls slice ps), store)

def route (r : Router) (reconcile : Reconciler σ) (slice : EndpointSlice) (store : Store) (s : σ) :
    Except String Unit × Store × σ :=
  match r.decide? slice store with
  | (.error e, store) => (.error e, store, s)
  | (.ok cs, store) => (.ok (), store, dispatch reconcile cs s)

end Router

/-- The slices that wait for a router, and what has been signaled to it. -/
structure RouterQueue where
  waiting : List EndpointSlice := []
  /-- No more slices will come. -/
  closed : Bool := false
  shutdown : Bool := false
  deriving DecidableEq, Repr

/-- What a router does next. -/
inductive RouterTurn where
  | stop
  | idle
  | route (slice : EndpointSlice)
  deriving DecidableEq, Repr

namespace RouterQueue

variable {σ : Type}

/-- The next turn: a shutdown comes first, then the slices in their order, and the end of the
queue stops the router when no slice is left. -/
def next (q : RouterQueue) : RouterTurn × RouterQueue :=
  if q.shutdown then (.stop, q)
  else
    match q.waiting with
    | slice :: rest => (.route slice, { q with waiting := rest })
    | [] => (if q.closed then .stop else .idle, q)

/-- Puts a slice at the end of the queue; a closed queue loses it. -/
def push (q : RouterQueue) (slice : EndpointSlice) : RouterQueue :=
  if q.closed then q else { q with waiting := q.waiting ++ [slice] }

theorem length_next_route {q q' : RouterQueue} {slice : EndpointSlice}
    (h : q.next = (.route slice, q')) : q'.waiting.length < q.waiting.length := by
  unfold next at h
  split at h
  · cases h
  · split at h
    · rename_i hw
      cases h
      simp [hw]
    · split at h <;> cases h

/-- Routes the slices of a queue until there is none, or the router stops. Tells whether the router
is still running. -/
def drain (q : RouterQueue) (r : Router) (reconcile : Reconciler σ) (store : Store) (s : σ) :
    Bool × RouterQueue × Store × σ :=
  match _h : q.next with
  | (.stop, q) => (false, q, store, s)
  | (.idle, q) => (true, q, store, s)
  | (.route slice, q) =>
    let (_, store, s) := r.route reconcile slice store s
    q.drain r reconcile store s
termination_by q.waiting.length
decreasing_by exact length_next_route _h

end RouterQueue

end WafControl
