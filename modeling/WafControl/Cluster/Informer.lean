import WafControl.Cluster.Watch
import WafControl.Data.Mailbox
import WafControl.Data.Signal
import WafControl.Data.Table
import WafControl.Time.Ticker
import WafControl.Workload.EndpointSlice

/-!
# Keeping the latest endpoint slices

An informer folds the events of a watch into a cache of slices and forwards every slice that is
applied. It forwards cached slices once more in two cases: all of those that belong to a service on
every resync, and those of announced hosts whenever a set of hosts is announced.

`Informer` is the cache. `InformerLoop` adds the watch and the timers: events come first, then a
resync that is due, then an announcement. Taking a resync or an announcement gives up a wait of the
watch. What is forwarded goes into a mailbox. While that is full, the loop does nothing but wait for
room, and when nobody receives any more, it ends. `InformerRun` is a loop in time, with somebody who
looks into the mailbox only now and then.
-/

namespace WafControl

/-- What a slice is stored under: its namespace and its name. -/
abbrev SliceKey := String × String

/-- The cached slices and, while a listing is under way, the keys listed so far. -/
structure Informer where
  cache : Table SliceKey EndpointSlice := {}
  listing : Option (List SliceKey) := none
  deriving DecidableEq, Repr

namespace Informer

def store (i : Informer) (s : EndpointSlice) : Informer :=
  { i with cache := i.cache.insert s.key s }

/-- Handles an event; gives the slices to forward. A listing that is complete removes from the
cache what it did not name. -/
def handle (i : Informer) : WatchEvent EndpointSlice → List EndpointSlice × Informer
  | .init => ([], { i with listing := some [] })
  | .initApply s => ([s], { i.store s with listing := i.listing.map (s.key :: ·) })
  | .initDone =>
    match i.listing with
    | none => ([], i)
    | some keys =>
      ([], { cache := i.cache.filterKeys fun k => decide (k ∈ keys), listing := none })
  | .apply s => ([s], i.store s)
  | .delete s => ([], { i with cache := i.cache.erase s.key })

/-- The cached slices of the services that `keep` holds of. -/
def replay (i : Informer) (keep : String → Bool) : List EndpointSlice :=
  i.cache.values.filter fun s => s.serviceFqdn?.any keep

/-- The cached slices that belong to a service. -/
def replayAll (i : Informer) : List EndpointSlice := i.replay fun _ => true

/-- The cached slices of the services among `hosts`. -/
def replayHosts (i : Informer) (hosts : List String) : List EndpointSlice :=
  i.replay fun fqdn => decide (fqdn ∈ hosts)

end Informer

/-- The hosts as they are announced, and whether whoever announced them is gone. -/
structure HostFeed where
  hosts : Signal (List String) := ⟨[], 0⟩
  closed : Bool := false
  deriving DecidableEq, Repr

/-- An informer with its sources, and the slices it has not found room for yet. -/
structure InformerLoop where
  informer : Informer := {}
  watch : Watch EndpointSlice
  resync : Ticker
  hostsSeen : Nat := 0
  hostsOpen : Bool := true
  unsent : List EndpointSlice := []
  deriving DecidableEq, Repr

namespace InformerLoop

/-- Every half minute, in milliseconds. -/
def resyncPeriod : Nat := 30000

/-- The ticker for resyncs every half minute, the first of them after one period. -/
def halfMinutely : Ticker := ⟨resyncPeriod, resyncPeriod, by decide⟩

/-- A loop over a watch that has yielded nothing yet. -/
def start (resync : Ticker) : InformerLoop := { watch := .start .standard [], resync }

/-- Takes whatever comes first at time `now`, and gives the slices to forward; none if there is
nothing to take. -/
def step (l : InformerLoop) (now : Nat) (feed : HostFeed) :
    Option (List EndpointSlice) × InformerLoop :=
  let received := l.watch.receive now
  let l := { l with watch := received.2 }
  match received.1 with
  | some e =>
    let handled := l.informer.handle e
    (some handled.1, { l with informer := handled.2 })
  | none =>
    if l.resync.due now then
      (some l.informer.replayAll,
        { l with resync := l.resync.tick now, watch := l.watch.interrupt })
    else if l.hostsOpen && feed.hosts.changedSince l.hostsSeen then
      (some (l.informer.replayHosts feed.hosts.latest),
        { l with hostsSeen := feed.hosts.sets, watch := l.watch.interrupt })
    else if l.hostsOpen && feed.closed then
      (some [], { l with hostsOpen := false, watch := l.watch.interrupt })
    else (none, l)

/-- The time of the next thing that happens by itself; there is none while the loop waits for
room. -/
def nextTime? (l : InformerLoop) : Option Nat :=
  if l.unsent ≠ [] then none
  else
    match l.watch.pause with
    | some p => some (min p.till l.resync.deadline)
    | none => some l.resync.deadline

/-- What the timers and the announcements can still make the loop do at one moment. -/
def alarms (l : InformerLoop) (now : Nat) (feed : HostFeed) : Nat :=
  (now + 1 - l.resync.deadline) + (if feed.hosts.changedSince l.hostsSeen then 1 else 0) +
    (if l.hostsOpen then 1 else 0)

/-- Whether at one moment a loop has less to do than another one: fewer alarms, or as many and less
to read, or as much of both and less to send. -/
def Ahead (now : Nat) (feed : HostFeed) (a b : InformerLoop) : Prop :=
  Prod.Lex (· < ·) (Prod.Lex (· < ·) (· < ·))
    (a.alarms now feed, a.watch.size, a.unsent.length)
    (b.alarms now feed, b.watch.size, b.unsent.length)

theorem step_decreases (l : InformerLoop) (now : Nat) (feed : HostFeed)
    (h : (l.step now feed).1.isSome) :
    (l.step now feed).2.alarms now feed < l.alarms now feed ∨
      (l.step now feed).2.alarms now feed = l.alarms now feed ∧
        (l.step now feed).2.watch.size < l.watch.size := by
  have hw := l.watch.size_receive_lt now
  unfold step at h ⊢
  simp only at h ⊢
  cases hr : (l.watch.receive now).1 with
  | some e =>
      rw [hr] at hw
      exact Or.inr ⟨rfl, Nat.lt_of_succ_le (by simpa using hw)⟩
  | none =>
      have ht := l.resync.deadline_lt_tick now
      simp only [hr] at h
      left
      by_cases h1 : l.resync.due now
      · have hd : l.resync.deadline ≤ now := by simpa [Ticker.due] using h1
        simp only [alarms, h1, if_true]
        omega
      · by_cases h2 : (l.hostsOpen && feed.hosts.changedSince l.hostsSeen) = true
        · have hs : (feed.hosts.changedSince feed.hosts.sets) = false := by
            simp [Signal.changedSince]
          have h2' := (Bool.and_eq_true _ _).mp h2
          simp [alarms, h1, h2', hs]
        · by_cases h3 : (l.hostsOpen && feed.closed) = true
          · have h3' := (Bool.and_eq_true _ _).mp h3
            simp only [h1, h2, h3, if_true]
            simp [alarms, h3']
          · simp [h1, h2, h3] at h

/-- Takes everything there is to take at time `now`, as long as there is room for what is forwarded.
The loop ends when it has something to forward and nobody receives it. -/
def settle (l : InformerLoop) (now : Nat) (feed : HostFeed) (box : Mailbox EndpointSlice) :
    Mailbox EndpointSlice × Option InformerLoop :=
  if l.unsent ≠ [] ∧ !box.receiving then (box, none)
  else
    let offered := box.offer l.unsent
    if offered.2 ≠ [] then (offered.1, some { l with unsent := offered.2 })
    else
      match _h : l.step now feed with
      | (none, l') => (offered.1, some { l' with unsent := [] })
      | (some slices, l') => settle { l' with unsent := slices } now feed offered.1
termination_by (l.alarms now feed, l.watch.size)
decreasing_by
  have hs := l.step_decreases now feed (by simp [_h])
  simp only [_h] at hs
  rcases hs with hlt | ⟨heq, hlt⟩
  · exact Prod.Lex.left _ _ hlt
  · have heq' : ({ l' with unsent := slices } : InformerLoop).alarms now feed = l.alarms now feed :=
      heq
    rw [heq']
    exact Prod.Lex.right _ hlt

theorem step_none (l : InformerLoop) (now : Nat) (feed : HostFeed)
    (h : (l.step now feed).1 = none) :
    (l.step now feed).2 = { l with watch := (l.watch.receive now).2 } := by
  unfold step at h ⊢
  simp only at h ⊢
  cases hr : (l.watch.receive now).1 with
  | some e => simp [hr] at h
  | none =>
      simp only [hr] at h ⊢
      split at h
      · cases h
      · split at h
        · cases h
        · split at h
          · cases h
          · rename_i h1 h2 h3
            simp only [h1, h2, h3]
            rfl

/-- Settling never makes more to do. -/
theorem settle_le (l : InformerLoop) (now : Nat) (feed : HostFeed) (box : Mailbox EndpointSlice)
    (l' : InformerLoop) (h : (l.settle now feed box).2 = some l') :
    l'.alarms now feed < l.alarms now feed ∨
      l'.alarms now feed = l.alarms now feed ∧ l'.watch.size ≤ l.watch.size := by
  fun_induction settle l now feed box with
  | case1 => simp at h
  | case2 l box _ offered hr =>
      cases h
      exact Or.inr ⟨rfl, Nat.le_refl _⟩
  | case3 l box _ offered hr l₁ hs =>
      cases h
      have hn := l.step_none now feed (by rw [hs])
      have hw := l.watch.size_receive_lt now
      rw [hs] at hn
      simp only at hn
      subst hn
      exact Or.inr ⟨rfl, by simp only; omega⟩
  | case4 l box _ offered hr slices l₁ hs ih =>
      have hd := l.step_decreases now feed (by simp [hs])
      have hi := ih h
      simp only [hs] at hd
      have ha : ({ l₁ with unsent := slices } : InformerLoop).alarms now feed =
          l₁.alarms now feed := rfl
      rw [ha] at hi
      simp only at hi
      omega

/-- Settling with some room in the mailbox gets ahead, even if the room does not suffice. -/
theorem settle_ahead (l : InformerLoop) (now : Nat) (feed : HostFeed)
    (box : Mailbox EndpointSlice) (l' : InformerLoop) (hr : 0 < box.room)
    (h : (l.settle now feed box).2 = some l') (hu : l'.unsent ≠ []) : Ahead now feed l' l := by
  unfold settle at h
  split at h
  · simp at h
  · simp only at h
    split at h
    · rename_i ho
      cases h
      have hne : l.unsent ≠ [] := by
        intro he
        simp [Mailbox.offer, he] at ho
      exact Prod.Lex.right _ (Prod.Lex.right _ (box.length_offer_lt l.unsent hr hne))
    · split at h
      · cases h
        simp at hu
      · rename_i slices l₁ hs
        have hd := l.step_decreases now feed (by simp [hs])
        have hl := settle_le _ now feed _ l' h
        simp only [hs] at hd
        have ha : ({ l₁ with unsent := slices } : InformerLoop).alarms now feed =
            l₁.alarms now feed := rfl
        rw [ha] at hl
        simp only at hl
        unfold Ahead
        by_cases he : l'.alarms now feed = l.alarms now feed
        · rw [he]
          exact Prod.Lex.right _ (Prod.Lex.left _ _ (by omega))
        · exact Prod.Lex.left _ _ (by omega)

/-- Lets time pass from `now` up to `till`; what is to be done then is left. Nobody looks into the
mailbox meanwhile. -/
def run (l : InformerLoop) (now till : Nat) (feed : HostFeed) (box : Mailbox EndpointSlice) :
    Mailbox EndpointSlice × Option InformerLoop :=
  if now < till then
    match l.settle now feed box with
    | (box, none) => (box, none)
    | (box, some l) =>
      match l.nextTime? with
      | none => (box, some l)
      | some t => l.run (max (now + 1) t) till feed box
  else (box, some l)
termination_by till - now
decreasing_by omega

end InformerLoop

/-- An informer in time, and the mailbox it fills. The loop is there as long as it runs. -/
structure InformerRun where
  loop : Option InformerLoop
  box : Mailbox EndpointSlice
  feed : HostFeed := {}
  now : Nat := 0
  deriving DecidableEq, Repr

namespace InformerRun

/-- An informer that resyncs after every period, and a mailbox for so many slices, but for one at
least. It fails where its ticker does. -/
def start (resyncPeriod capacity : Nat) : Except TickerFault InformerRun :=
  (Ticker.startAt resyncPeriod resyncPeriod).map fun resync =>
    { loop := some (.start resync), box := { capacity := max 1 capacity } }

/-- Lets `ms` milliseconds pass; what is to be done at their end is left. -/
def advance (r : InformerRun) (ms : Nat) : InformerRun :=
  let till := r.now + ms
  match r.loop with
  | none => { r with now := till }
  | some l =>
    let (box, loop) := l.run r.now till r.feed r.box
    { r with loop, box, now := till }

/-- Lets a millisecond pass and empties the mailbox. -/
def glance (r : InformerRun) : List EndpointSlice × InformerRun :=
  let r := r.advance 1
  let (slices, box) := r.box.takeAll
  (slices, { r with box })

/-- Empties the mailbox every millisecond until there is nothing in it, at most so many times. -/
def collectFor : Nat → InformerRun → List EndpointSlice × InformerRun
  | 0, r => ([], r)
  | n + 1, r =>
    match r.glance with
    | ([], r) => ([], r)
    | (slices, r) =>
      let rest := collectFor n r
      (slices ++ rest.1, rest.2)

/-- How often it is worth looking into the mailbox: as often as slices may come one by one, with
some resyncs in between. -/
def patience (r : InformerRun) : Nat :=
  r.box.items.length +
    r.loop.elim 1 fun l => l.unsent.length + 8 * (l.watch.size + l.informer.cache.values.length + 2)

/-- Empties the mailbox every millisecond until nothing comes any more; gives the slices. -/
def collect (r : InformerRun) : List EndpointSlice × InformerRun := collectFor r.patience r

/-- Further items come over the connection that the watch is reading. -/
def yield (r : InformerRun) (items : List (StreamItem EndpointSlice)) : InformerRun :=
  { r with loop := r.loop.map fun l =>
      { l with watch := { l.watch with stream := l.watch.stream.append items } } }

/-- A set of hosts is announced. -/
def announce (r : InformerRun) (hosts : List String) : InformerRun :=
  { r with feed := { r.feed with hosts := r.feed.hosts.set hosts } }

/-- Whoever announces hosts goes away. -/
def closeHosts (r : InformerRun) : InformerRun := { r with feed := { r.feed with closed := true } }

/-- Whoever receives the slices goes away. -/
def stopReceiver (r : InformerRun) : InformerRun := { r with box := r.box.close }

end InformerRun

end WafControl
