import WafControl.Cluster.Informer
import WafControl.Polling.Pipeline
import WafControl.Relay.Router
import WafControl.Relay.ScriptedNode

/-!
# The relay agent of a node

The agent connects what keeps the relays of a node in step with the policy store: a poller that
announces the protected hosts, an informer that forwards endpoint slices as they change and those
of announced hosts, and a router that works the slices off one by one through a relay controller.

Time is counted in milliseconds. At every moment each part does all it can do, in the order in which
they feed each other; then time moves on to the next moment at which a part has something to do. A
poller that cannot be started is a fault, and leaves the other parts alone.
-/

namespace WafControl

/-- Work that the router interrupted to wait: when it goes on, the start that is pending, and the
calls that are still to be made for the slice in hand. -/
structure RouterPause where
  till : Nat
  start : PendingStart
  calls : List RelayCall

/-- How many slices can wait for the router. -/
def Agent.queueSize : Nat := 100

/-- The agent over a scripted node. -/
structure Agent where
  router : Router
  controller : RelayController
  store : Store := {}
  node : Supervised ScriptedNode := ⟨{}, {}⟩
  now : Nat := 0
  polling : Except TickerFault PollLoop
  feed : HostFeed := {}
  informer : Option InformerLoop
  queue : Mailbox EndpointSlice := { capacity := Agent.queueSize }
  pause : Option RouterPause := none

namespace Agent

/-- An agent that has done nothing yet and polls with the given interval. -/
def start (router : Router) (interval : Nat) : Agent :=
  { router
    controller := { nodeName := router.nodeName }
    polling := PollLoop.start .all 0 interval
    informer := some (.start InformerLoop.halfMinutely) }

/-- Polls whatever is due, and announces the hosts of a changed listing. -/
def poll (a : Agent) : Agent :=
  match a.polling with
  | .error _ => a
  | .ok l =>
    let (results, l, store) := l.run a.store a.now (a.now + 1)
    let hosts := results.foldl (fun hosts r => HostSignal.follow hosts r.2) a.feed.hosts
    { a with store, polling := .ok l, feed := { a.feed with hosts } }

/-- Follows the progress of a call with the calls after it. -/
def proceed (a : Agent) : List RelayCall → Agent
  | [] => a
  | call :: calls =>
    match a.controller.begin ScriptedNode.ops call a.node with
    | (.finished _, node) => proceed { a with node } calls
    | (.waiting d start, node) =>
      { a with node, pause := some ⟨a.now + d.sleepMillis, start, calls⟩ }

/-- Takes up the work again whose wait is over. -/
def resume (a : Agent) : Agent :=
  match a.pause with
  | none => a
  | some p =>
    if p.till ≤ a.now then
      match a.controller.resume ScriptedNode.ops p.start a.node with
      | (.finished _, node) => proceed { a with node, pause := none } p.calls
      | (.waiting d start, node) =>
        { a with node, pause := some ⟨a.now + d.sleepMillis, start, p.calls⟩ }
    else a

/-- Routes slices until none is left or the router has to wait; those left stay in the queue. -/
def routeAll (a : Agent) : List EndpointSlice → Agent
  | [] => { a with queue := { a.queue with items := [] } }
  | slice :: rest =>
    match a.pause with
    | some _ => { a with queue := { a.queue with items := slice :: rest } }
    | none =>
      match a.router.decide? slice a.store with
      | (.error _, store) => routeAll { a with store } rest
      | (.ok calls, store) => routeAll (proceed { a with store } calls) rest

def route (a : Agent) : Agent := a.routeAll a.queue.items

/-- Lets an informer and the router take turns: the router makes room in the queue, and the informer
goes on as long as there is room and something left to send. -/
def relay (now : Nat) (feed : HostFeed) (l : InformerLoop) (a : Agent) : Agent :=
  match _hs : l.settle now feed a.queue with
  | (queue, none) => { a with queue, informer := none }.route
  | (queue, some l') =>
    let b := { a with queue, informer := some l' }.route
    if _h : 0 < a.queue.room ∧ l'.unsent ≠ [] then relay now feed l' b else b
termination_by (l.alarms now feed, l.watch.size, l.unsent.length)
decreasing_by exact l.settle_ahead now feed _ l' _h.1 (by rw [_hs]) _h.2

/-- Does everything there is to do now. -/
def settle (a : Agent) : Agent :=
  let a := a.poll.resume.route
  match a.informer with
  | none => a
  | some l => relay a.now a.feed l a

/-- The next moment at which a part has something to do. -/
def nextTime? (a : Agent) : Option Nat :=
  (a.polling.toOption.map PollLoop.nextTime).merge min
    ((a.informer.bind InformerLoop.nextTime?).merge min (a.pause.map RouterPause.till))

/-- Lets time pass up to `till`; what is to be done then is left. -/
def runTill (a : Agent) (till : Nat) : Agent :=
  if a.now < till then
    let b := a.settle
    let next := match b.nextTime? with
      | none => till
      | some t => min till (max (a.now + 1) t)
    runTill { b with now := next } till
  else a
termination_by till - a.now
decreasing_by
  split <;> omega

/-- Lets `ms` milliseconds pass; what is to be done at their end is left. -/
def advance (a : Agent) (ms : Nat) : Agent := a.runTill (a.now + ms)

/-- Further items come from the watched cluster. -/
def yield (a : Agent) (items : List (StreamItem EndpointSlice)) : Agent :=
  { a with informer := a.informer.map fun l =>
      { l with watch := { l.watch with stream := l.watch.stream.append items } } }

end Agent

end WafControl
