import WafControl.Discovery.Server
import WafControl.Proofs.Subscribing

/-!
# Discovery sessions

A session is a stream with the cache it reads. Snapshots are published at any time; the stream
takes up one thing after the other, a request (`Requested`) or a publication it has not seen
(`Pushed`), and is over once it has refused a request.
-/

namespace WafControl

namespace Cache

theorem watch_fst (c : Cache) (node : String) :
    (c.watch node).1 = ⟨node, (c.channel node).sets⟩ := by
  unfold watch subscribeOrCreate subscribe? channel
  cases h : c.channels.find? node <;> rfl

@[simp] theorem get_watch (c : Cache) (node other : String) :
    (c.watch node).2.get other = c.get other := by
  rw [get, channel_watch, get]

theorem get_set_of_ne (c : Cache) {node other : String} (h : other ≠ node) (x : Snapshot) :
    (c.set node x).get other = c.get other := by
  rw [get, channel_set_of_ne c h, get]

theorem sets_le_set (c : Cache) (node other : String) (x : Snapshot) :
    (c.channel other).sets ≤ ((c.set node x).channel other).sets := by
  by_cases h : other = node
  · subst h
    rw [channel_set_self, Signal.sets_set]
    exact Nat.le_succ _
  · exact Nat.le_of_eq (congrArg Signal.sets (channel_set_of_ne c h x).symm)

end Cache

namespace Watcher

theorem changed_set_self {w : Watcher} {c : Cache} (h : w.seen ≤ (c.channel w.node).sets)
    (x : Snapshot) : w.changed (c.set w.node x) = true := by
  rw [changed, Cache.channel_set_self, Signal.changedSince, Signal.sets_set]
  exact bne_iff_ne.2 (by omega)

theorem changed_set_of_ne {w : Watcher} {node : String} (h : w.node ≠ node) (c : Cache)
    (x : Snapshot) : w.changed (c.set node x) = w.changed c := by
  rw [changed, Cache.channel_set_of_ne c h, changed]

end Watcher

namespace Discovery

structure Session where
  cache : Cache
  stream : Stream
  counts : Counts := {}
  /-- How the stream ended, if it did. -/
  refusal : Option Status := none
  deriving DecidableEq, Repr

namespace Session

/-- A stream that was just opened. -/
def start (fixed : Option ResourceType) (cache : Cache) : Session := ⟨cache, { fixed }, {}, none⟩

variable (s : Session)

/-- The snapshot of the node that the stream watches. -/
def current : Option Snapshot := s.stream.watcher.bind fun w => w.peek s.cache

/-- Whether a snapshot was published that the stream has not seen. -/
def unseen : Bool := s.stream.watcher.any fun w => w.changed s.cache

def publish (node : String) (x : Snapshot) : Session := { s with cache := s.cache.set node x }

def request (r : Request) : Option Response × Session :=
  match s.refusal with
  | some _ => (none, s)
  | none =>
    match s.stream.request s.counts s.cache r with
    | .error status => (none, { s with refusal := some status })
    | .ok (response, stream, counts, cache) => (response, { s with cache, stream, counts })

def push : List Response × Session :=
  match s.refusal with
  | some _ => ([], s)
  | none =>
    let (responses, stream, counts) := s.stream.push s.counts s.cache
    (responses, { s with stream, counts })

/-! ### What a session goes through -/

def watching (w : Watcher) (cache : Cache) : Session :=
  { s with cache, stream := { s.stream with watcher := some w } }

/-- The session in which a request is handled: the stream watches a node then, if need be the one
that the request names. -/
def attend? (r : Request) : Option Session :=
  match s.refusal, s.stream.identify s.cache r with
  | none, .ok (w, cache) => some (s.watching w cache)
  | _, _ => none

/-- The session once the current snapshot is seen. -/
def see : Session :=
  { s with stream := { s.stream with watcher := s.stream.watcher.map fun w => w.see s.cache } }

def update (subscriptions : Subscriptions) (counts : Counts) : Session :=
  { s with stream := { s.stream with subscriptions }, counts }

@[simp] theorem current_update (subs : Subscriptions) (m : Counts) :
    (s.update subs m).current = s.current := rfl

@[simp] theorem unseen_update (subs : Subscriptions) (m : Counts) :
    (s.update subs m).unseen = s.unseen := rfl

/-- A publication of the node that is watched is unseen; one of another node is of no concern. -/
theorem unseen_publish {w : Watcher} (hw : s.stream.watcher = some w)
    (hseen : w.seen ≤ (s.cache.channel w.node).sets) (x : Snapshot) :
    (s.publish w.node x).unseen = true := by
  rw [unseen, publish, hw]
  exact Watcher.changed_set_self hseen x

theorem publish_of_ne {w : Watcher} {node : String} (hw : s.stream.watcher = some w)
    (hn : w.node ≠ node) (x : Snapshot) :
    (s.publish node x).unseen = s.unseen ∧ (s.publish node x).current = s.current := by
  rw [unseen, current, publish, unseen, current, hw]
  exact ⟨Watcher.changed_set_of_ne hn s.cache x, Cache.get_set_of_ne s.cache hn x⟩

@[simp] theorem current_see : s.see.current = s.current := by
  unfold see current
  cases s.stream.watcher <;> rfl

@[simp] theorem unseen_see : s.see.unseen = false := by
  unfold see unseen
  cases s.stream.watcher <;> simp [Watcher.changed, Watcher.see, Signal.changedSince]

theorem seen_see {w : Watcher} (h : s.see.stream.watcher = some w) :
    w.seen = (s.see.cache.channel w.node).sets := by
  obtain ⟨w', -, rfl⟩ := Option.map_eq_some_iff.1 h
  rfl

theorem attend?_of_watching {w : Watcher} (hr : s.refusal = none)
    (hw : s.stream.watcher = some w) (r : Request) : s.attend? r = some s := by
  obtain ⟨cache, ⟨fixed, watcher, subs⟩, m, refusal⟩ := s
  subst hr hw
  rfl

theorem attend?_of_named {node : String} {r : Request} (hr : s.refusal = none)
    (hw : s.stream.watcher = none) (hn : r.nodeId = .ok node) :
    s.attend? r = some (s.watching ⟨node, (s.cache.channel node).sets⟩ (s.cache.watch node).2) := by
  simp only [attend?, Stream.identify, hr, hw, hn, Except.map]
  rw [← Cache.watch_fst]

/-- A request is attended to by a stream that watches a node, or names the node to watch. -/
theorem attend?_eq_some {s s' : Session} {r : Request} (h : s.attend? r = some s') :
    s.refusal = none ∧ ((∃ w, s.stream.watcher = some w ∧ s' = s) ∨
      ∃ node, s.stream.watcher = none ∧ r.nodeId = .ok node ∧
        s' = s.watching ⟨node, (s.cache.channel node).sets⟩ (s.cache.watch node).2) := by
  cases hr : s.refusal with
  | some status => simp [attend?, hr] at h
  | none =>
      refine ⟨rfl, ?_⟩
      cases hw : s.stream.watcher with
      | some w =>
          rw [s.attend?_of_watching hr hw] at h
          exact Or.inl ⟨w, rfl, (Option.some.inj h).symm⟩
      | none =>
          cases hn : r.nodeId with
          | error status => simp [attend?, Stream.identify, hr, hw, hn, Except.map] at h
          | ok node =>
              rw [s.attend?_of_named hr hw hn] at h
              exact Or.inr ⟨node, rfl, rfl, (Option.some.inj h).symm⟩

/-- Attending to a request changes neither the subscriptions nor what is published. -/
theorem stream_of_attend? {s s' : Session} {r : Request} (h : s.attend? r = some s') :
    s'.stream.fixed = s.stream.fixed ∧ s'.stream.subscriptions = s.stream.subscriptions ∧
      ∀ node, s'.cache.get node = s.cache.get node := by
  obtain ⟨-, ⟨w, -, rfl⟩ | ⟨node, -, -, rfl⟩⟩ := attend?_eq_some h
  · exact ⟨rfl, rfl, fun _ => rfl⟩
  · exact ⟨rfl, rfl, fun other => Cache.get_watch s.cache node other⟩

theorem watcher_of_attend? {s s' : Session} {r : Request} (h : s.attend? r = some s') :
    s'.stream.watcher ≠ none := by
  obtain ⟨-, ⟨w, hw, rfl⟩ | ⟨node, -, -, rfl⟩⟩ := attend?_eq_some h
  · simp [hw]
  · simp [watching]

/-- What becomes of a request. -/
inductive Requested (r : Request) : Option Response → Session → Prop
  | refused (status : Status) (unattended : s.attend? r = none) :
      Requested r none { s with refusal := some status }
  | handled {s' : Session} {response : Option Response} {subs : Subscriptions} (m : Counts)
      (attends : s.attend? r = some s')
      (handles : s'.stream.subscriptions.Handled s'.stream.fixed r s'.current response subs) :
      Requested r response (s'.update subs m)

theorem requested_request (r : Request) :
    ∃ response s', s.request r = (response, s') ∧ s.Requested r response s' := by
  refine ⟨_, _, rfl, ?_⟩
  obtain ⟨cache, stream, m, refusal⟩ := s
  cases refusal with
  | some status => exact .refused status rfl
  | none =>
      simp only [Stream.request]
      cases hi : stream.identify cache r with
      | error status => exact .refused status (by simp [attend?, hi])
      | ok found =>
          have ha : attend? ⟨cache, stream, m, none⟩ r =
              some (watching ⟨cache, stream, m, none⟩ found.1 found.2) := by simp [attend?, hi]
          exact .handled _ ha (Subscriptions.handled_handleRequest _ _ _ _ _)

/-- What becomes of the publications that a stream has not seen. -/
inductive Pushed : List Response → Session → Prop
  | idle (still : s.refusal ≠ none ∨ s.unseen = false) : Pushed [] s
  | nothing (unpublished : s.current = none) : Pushed [] s.see
  | pushed {x : Snapshot} (m : Counts) (published : s.current = some x) :
      Pushed (s.stream.subscriptions.handleSnapshot s.counts x).1
        (s.see.update (s.stream.subscriptions.handleSnapshot s.counts x).2.1 m)

theorem pushed_push : ∃ rs s', s.push = (rs, s') ∧ s.Pushed rs s' := by
  refine ⟨_, _, rfl, ?_⟩
  obtain ⟨cache, ⟨fixed, watcher, subs⟩, m, refusal⟩ := s
  cases refusal with
  | some status => exact .idle (Or.inl (by simp))
  | none =>
      cases watcher with
      | none => exact .idle (Or.inr rfl)
      | some w =>
          simp only [Stream.push]
          cases hc : w.changed cache with
          | false => exact .idle (Or.inr hc)
          | true =>
              cases hp : w.peek cache with
              | none => exact .nothing hp
              | some x => exact .pushed _ hp

/-! ### The node that a session is about -/

def Watches (node : String) : Prop :=
  s.refusal = none ∧ ∃ w, s.stream.watcher = some w ∧ w.node = node

variable {s} {node : String}

theorem Watches.current (h : s.Watches node) : s.current = s.cache.get node := by
  obtain ⟨-, w, hw, rfl⟩ := h
  rw [Session.current, hw]
  rfl

theorem Watches.attend? (h : s.Watches node) (r : Request) : s.attend? r = some s := by
  obtain ⟨hr, w, hw, -⟩ := h
  exact s.attend?_of_watching hr hw r

theorem Watches.publish (h : s.Watches node) (other : String) (x : Snapshot) :
    (s.publish other x).Watches node := h

/-- A session is attended to that watches the node, or begins to by a request that names it. -/
theorem exists_attend? {r : Request} (hr : s.refusal = none)
    (hw : ∀ w, s.stream.watcher = some w → w.node = node)
    (hn : s.stream.watcher = none → r.nodeId = .ok node) :
    ∃ s', s.attend? r = some s' ∧ s'.Watches node := by
  cases h : s.stream.watcher with
  | some w => exact ⟨s, s.attend?_of_watching hr h r, hr, w, h, hw w h⟩
  | none => exact ⟨_, s.attend?_of_named hr h (hn h), hr, _, rfl, rfl⟩

theorem Watches.request (h : s.Watches node) (r : Request) : (s.request r).2.Watches node := by
  obtain ⟨response, s', hs, hr⟩ := s.requested_request r
  rw [hs]
  cases hr with
  | refused status unattended =>
      rw [h.attend? r] at unattended
      cases unattended
  | handled m attends handles =>
      rw [h.attend? r] at attends
      cases attends
      exact h

theorem Watches.push (h : s.Watches node) : s.push.2.Watches node := by
  have hsee : s.see.Watches node := by
    obtain ⟨hr, w, hw, hn⟩ := h
    exact ⟨hr, w.see s.cache, by simp [see, hw], hn⟩
  obtain ⟨rs, s', hs, hp⟩ := s.pushed_push
  rw [hs]
  cases hp with
  | idle still => exact h
  | nothing unpublished => exact hsee
  | pushed m published => exact hsee

theorem watches_of_named {r : Request} (hr : s.refusal = none) (hw : s.stream.watcher = none)
    (hn : r.nodeId = .ok node) : (s.request r).2.Watches node := by
  have hattend := s.attend?_of_named hr hw hn
  obtain ⟨response, s', hs, hr'⟩ := s.requested_request r
  rw [hs]
  cases hr' with
  | refused status unattended => simp [hattend] at unattended
  | handled m attends handles =>
      rw [hattend] at attends
      cases attends
      exact ⟨hr, _, rfl, rfl⟩

end Session

/-! ### The sessions of a server -/

namespace Server

/-- The session of an open stream. -/
def session? (s : Server) (id : String) : Option Session :=
  (s.streams.find? id).map fun o => ⟨s.cache, o.stream, s.counts, none⟩

variable {s : Server} {id : String} {session : Session}

theorem session?_eq_some (h : s.session? id = some session) :
    ∃ o, s.streams.find? id = some o ∧ session = ⟨s.cache, o.stream, s.counts, none⟩ := by
  obtain ⟨o, ho, rfl⟩ := Option.map_eq_some_iff.1 h
  exact ⟨o, ho, rfl⟩

/-- Letting a stream push is a push of its session. -/
theorem pushOn_of_session? (h : s.session? id = some session) :
    (s.pushOn id).1 = session.push.1.map .response ∧
      (s.pushOn id).2.session? id = some session.push.2 := by
  obtain ⟨o, ho, rfl⟩ := session?_eq_some h
  simp [pushOn, ho, Session.push, session?]

/-- Handing a request to a stream is a request of its session. -/
theorem sendAll_of_session? (h : s.session? id = some session) (r : Request) (rs : List Request)
    (hr : (session.request r).2.refusal = none) :
    ∃ s' : Server, s'.session? id = some (session.request r).2 ∧
      s.sendAll id (r :: rs) = (((session.request r).1.map Event.response).toList ++
        (s'.sendAll id rs).1, (s'.sendAll id rs).2) := by
  obtain ⟨o, ho, rfl⟩ := session?_eq_some h
  cases hq : o.stream.request s.counts s.cache r with
  | error status => simp [Session.request, hq] at hr
  | ok answer =>
      obtain ⟨response, stream, counts, cache⟩ := answer
      simp only [Session.request, hq, sendAll, ho]
      refine ⟨{ s with counts, cache, streams := s.streams.insert id { o with stream } }, ?_, rfl⟩
      simp [session?]

theorem sendAll_of_refusal (h : s.session? id = some session) (r : Request) (rs : List Request)
    {status : Status} (hr : (session.request r).2.refusal = some status) :
    s.sendAll id (r :: rs) = ([.failed status], s.finish id) := by
  obtain ⟨o, ho, rfl⟩ := session?_eq_some h
  cases hq : o.stream.request s.counts s.cache r with
  | error refused =>
      simp only [Session.request, hq, Option.some.injEq] at hr
      simp [sendAll, ho, hq, hr]
  | ok answer => simp [Session.request, hq] at hr

end Server

end Discovery

end WafControl
