import WafControl.Time.Backoff

/-!
# Watching a stream of changes

A watch reads the events of one stream after the other. A failure is waited out and the same stream
is read on; the end of a stream is waited out and then the next stream is connected. The waits
follow a backoff policy that is reset by every event, so an observer of a watch sees events only.

There are two ways to read. `recv` waits as long as it takes, and lists its waits. `receive` does
what can be done at one moment and leaves a pause behind where it would have to wait; `interrupt`
gives such a wait up, after which the stream is read again at once. Both read by `poll`, the only
place where an item is taken or an attempt is counted.
-/

namespace WafControl

/-- A change among the watched objects. A listing starts with `init`, names what exists with
`initApply` and is complete at `initDone`. -/
inductive WatchEvent (α : Type) where
  | init
  | initApply (a : α)
  | initDone
  | apply (a : α)
  | delete (a : α)
  deriving DecidableEq, Repr

/-- What a connection can yield. Nothing that stands behind a silence ever comes. -/
inductive StreamItem (α : Type) where
  | event (e : WatchEvent α)
  | failure
  | silence
  deriving DecidableEq, Repr

/-- What one connection yields, one item after the other. After them the stream ends, or it waits
for more. -/
structure EventStream (α : Type) where
  items : List (StreamItem α) := []
  ends : Bool := true
  deriving DecidableEq, Repr

namespace EventStream

variable {α : Type}

/-- A stream that never yields anything. -/
def silent : EventStream α := { ends := false }

def append (s : EventStream α) (items : List (StreamItem α)) : EventStream α :=
  { s with items := s.items ++ items }

/-- How often a stream can be read before it is over for good. -/
def size (s : EventStream α) : Nat := s.items.length + (if s.ends then 1 else 0)

end EventStream

/-- A wait of a watch: when it is over, and whether the next stream is connected then. -/
structure Pause where
  till : Nat
  reconnect : Bool
  deriving DecidableEq, Repr

/-- A watch: what is left of the current stream, the streams of later connections (silence follows
the last), and how far it has come. -/
structure Watch (α : Type) where
  stream : EventStream α
  later : List (EventStream α) := []
  retry : Retry
  connects : Nat := 1
  initialized : Bool := false
  pause : Option Pause := none
  deriving DecidableEq, Repr

/-- What reading the current stream once comes to. A failure and an end come with the wait they
call for. -/
inductive Polled (α : Type) where
  | event (e : WatchEvent α)
  | failed (delay : Duration)
  | ended (delay : Duration)
  | silent
  deriving DecidableEq, Repr

namespace Watch

variable {α : Type}

/-- A watch over the streams of successive connections, the first of which is made at once. -/
def start (policy : Backoff) : List (EventStream α) → Watch α
  | [] => { stream := .silent, retry := policy.retry }
  | s :: later => { stream := s, later, retry := policy.retry }

/-- Reads the current stream once. -/
def poll (w : Watch α) : Polled α × Watch α :=
  match w.stream.items with
  | .event e :: items =>
    (.event e,
      { w with stream := { w.stream with items }, initialized := true, retry := w.retry.reset })
  | .failure :: items =>
    (.failed w.retry.delay,
      { w with stream := { w.stream with items }, retry := w.retry.advance })
  | .silence :: _ => (.silent, w)
  | [] =>
    if w.stream.ends then (.ended w.retry.delay, { w with retry := w.retry.advance })
    else (.silent, w)

def reconnect (w : Watch α) : Watch α :=
  match w.later with
  | [] => { w with stream := .silent, connects := w.connects + 1 }
  | s :: later => { w with stream := s, later, connects := w.connects + 1 }

/-- How often the watch can still read an item or connect before it is silent for good. -/
def size (w : Watch α) : Nat := w.stream.size + w.later.foldr (fun s n => s.size + n) 0

theorem size_poll_event {w w' : Watch α} {e : WatchEvent α} (h : w.poll = (.event e, w')) :
    w'.size < w.size := by
  unfold poll at h
  split at h
  · rename_i hi
    cases h
    simp [size, EventStream.size, hi]
  · cases h
  · cases h
  · split at h <;> cases h

theorem size_poll_failed {w w' : Watch α} {d : Duration} (h : w.poll = (.failed d, w')) :
    w'.size < w.size := by
  unfold poll at h
  split at h
  · cases h
  · rename_i hi
    cases h
    simp [size, EventStream.size, hi]
  · cases h
  · split at h <;> cases h

theorem size_reconnect_le (w : Watch α) : w.reconnect.size ≤ w.size := by
  unfold reconnect
  split
  · rename_i hl
    simp [size, EventStream.size, EventStream.silent, hl]
  · rename_i hl
    simp [size, hl]

theorem size_reconnect_poll_ended {w w' : Watch α} {d : Duration}
    (h : w.poll = (.ended d, w')) : w'.reconnect.size < w.size := by
  unfold poll at h
  split at h
  · cases h
  · cases h
  · cases h
  · rename_i hi
    split at h
    · rename_i he
      cases h
      unfold reconnect
      split
      · rename_i hl
        simp only at hl
        simp [size, EventStream.size, EventStream.silent, hi, he, hl]
      · rename_i hl
        simp only at hl
        simp [size, EventStream.size, hi, he, hl]
    · cases h

/-- Reads on until there is an event, waiting as long as it takes. Gives the waits and the event;
no event means that the watch stays silent. -/
def recv (w : Watch α) : List Duration × Option (WatchEvent α) × Watch α :=
  match _h : w.poll with
  | (.event e, w') => ([], some e, w')
  | (.failed d, w') =>
    let rest := w'.recv
    (d :: rest.1, rest.2)
  | (.ended d, w') =>
    let rest := w'.reconnect.recv
    (d :: rest.1, rest.2)
  | (.silent, w') => ([], none, w')
termination_by w.size
decreasing_by
  · exact size_poll_failed _h
  · exact size_reconnect_poll_ended _h

/-- The watch after its pause. -/
def wake (w : Watch α) : Watch α :=
  match w.pause with
  | none => w
  | some p => if p.reconnect then { w.reconnect with pause := none } else { w with pause := none }

/-- Gives up a wait: the stream is read again at once. The attempt stays counted. -/
def interrupt (w : Watch α) : Watch α := { w with pause := none }

/-- The measure of what a watch can do at one moment. -/
def budget (w : Watch α) : Nat := 2 * w.size + (if w.pause.isSome then 1 else 0)

theorem budget_wake_lt (w : Watch α) (h : w.pause.isSome) : w.wake.budget < w.budget := by
  unfold wake
  cases hp : w.pause with
  | none => simp [hp] at h
  | some p =>
      have hr := w.size_reconnect_le
      by_cases hc : p.reconnect <;> simp [budget, hc, hp, size] at hr ⊢
      omega

/-- Does what can be done at time `now`: the next event, or none, with a pause where the watch has
to wait. -/
def receive (w : Watch α) (now : Nat) : Option (WatchEvent α) × Watch α :=
  match _hp : w.pause with
  | some p => if p.till ≤ now then w.wake.receive now else (none, w)
  | none =>
    match _h : w.poll with
    | (.event e, w') => (some e, w')
    | (.failed d, w') =>
      if d.sleepMillis = 0 then w'.receive now
      else (none, { w' with pause := some ⟨now + d.sleepMillis, false⟩ })
    | (.ended d, w') =>
      if d.sleepMillis = 0 then w'.reconnect.receive now
      else (none, { w' with pause := some ⟨now + d.sleepMillis, true⟩ })
    | (.silent, w') => (none, w')
termination_by w.budget
decreasing_by
  · exact w.budget_wake_lt (by simp [_hp])
  · have := size_poll_failed _h
    unfold budget
    split <;> split <;> omega
  · have := size_reconnect_poll_ended _h
    unfold budget
    split <;> split <;> omega

theorem size_wake_le (w : Watch α) : w.wake.size ≤ w.size := by
  unfold wake
  cases hp : w.pause with
  | none => exact Nat.le_refl _
  | some p =>
      have hr := w.size_reconnect_le
      by_cases hc : p.reconnect <;> simp [hc, size] at hr ⊢
      exact hr

theorem size_poll_le {w w' : Watch α} {p : Polled α} (h : w.poll = (p, w')) :
    w'.size ≤ w.size := by
  unfold poll at h
  split at h
  · rename_i hi
    cases h
    simp [size, EventStream.size, hi]
  · rename_i hi
    cases h
    simp [size, EventStream.size, hi]
  · cases h
    exact Nat.le_refl _
  · split at h <;> cases h <;> exact Nat.le_refl _

/-- An event received is an item less to read. -/
theorem size_receive_lt (w : Watch α) (now : Nat) :
    (w.receive now).2.size + (if (w.receive now).1.isSome then 1 else 0) ≤ w.size := by
  fun_induction receive w now with
  | case1 w p hp hle ih => exact Nat.le_trans ih w.size_wake_le
  | case2 => simp
  | case3 w hp e w' h => exact size_poll_event h
  | case4 w hp d w' h hz ih => exact Nat.le_trans ih (Nat.le_of_lt (size_poll_failed h))
  | case5 w hp d w' h hz =>
      have : w'.size < w.size := size_poll_failed h
      exact Nat.le_of_lt this
  | case6 w hp d w' h hz ih => exact Nat.le_trans ih (Nat.le_of_lt (size_reconnect_poll_ended h))
  | case7 w hp d w' h hz =>
      have : w'.size ≤ w.size := size_poll_le h
      exact this
  | case8 w hp w' h => exact size_poll_le h

end Watch

end WafControl
