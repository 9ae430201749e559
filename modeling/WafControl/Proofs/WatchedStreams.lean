import Mathlib.Data.List.Induction
import WafControl.Proofs.WatchCourse

/-!
# Watched streams

A watch is read over streams that are connected one after the other, and on each of which things
arrive in their own time. Whoever reads it may drop a call at any moment and make it again. What was
returned so far and what is left of the current stream are the events of all streams connected so
far (`Kept.returned`); a stream is left once it has been read to its end, and for no other reason
(`Connecting`). A watch that is left alone waits as its course says (`streams_watched`).
-/

namespace WafControl

variable {α : Type}

def StreamItem.event? : StreamItem α → Option (WatchEvent α)
  | .event e => some e
  | _ => none

namespace EventStream

/-- All events of a stream, those behind a silence too. -/
def events (s : EventStream α) : List (WatchEvent α) := s.items.filterMap StreamItem.event?

/-- The stream when a silence is over. -/
def arrive (s : EventStream α) : EventStream α :=
  match s.items with
  | .silence :: items => { s with items }
  | _ => s

theorem events_arrive (s : EventStream α) : s.arrive.events = s.events := by
  unfold arrive events
  split
  · rename_i hi
    rw [hi]
    rfl
  · rfl

theorem ends_arrive (s : EventStream α) : s.arrive.ends = s.ends := by
  unfold arrive
  split <;> rfl

theorem items_arrive_of_nil {s : EventStream α} (h : s.items = []) : s.arrive.items = [] := by
  rw [arrive, h]
  exact h

end EventStream

def WatchAct.event? : WatchAct α → Option (WatchEvent α)
  | read (.event e) => some e
  | _ => none

namespace PastAct

/-- The events that were read, in order. -/
def events : List (PastAct α) → List (WatchEvent α)
  | [] => []
  | x :: earlier => events earlier ++ x.act.event?.toList

def connections (log : List (PastAct α)) : Nat := log.countP (·.act matches .connect)

/-- The latest act has read an end. -/
def AtEnd (log : List (PastAct α)) : Prop := ∃ y d, log.head? = some y ∧ y.act = .read (.ended d)

theorem AtEnd.hasEnded {log : List (PastAct α)} (h : AtEnd log) : hasEnded log = true := by
  obtain ⟨y, d, hy, hd⟩ := h
  cases log with
  | nil => cases hy
  | cons x log =>
      cases hy
      simp [PastAct.hasEnded, hd]

/-- A stream is connected right after the end of another one, and a stream that has ended is over
whenever it is read. -/
def Connecting : List (PastAct α) → Prop
  | [] => True
  | x :: earlier =>
    (x.act = .connect → AtEnd earlier) ∧
      (hasEnded earlier = true → ∀ p, x.act = .read p → ∃ d, p = .ended d) ∧ Connecting earlier

theorem Connecting.of_append {later log : List (PastAct α)} (h : Connecting (later ++ log)) :
    Connecting log := by
  induction later with
  | nil => exact h
  | cons x later ih => exact ih h.2.2

end PastAct

namespace Watch

open PastAct

/-- What reading the current stream once does to it. -/
structure Read (w : Watch α) (p : Polled α) (w' : Watch α) : Prop where
  later : w'.later = w.later
  pause : w'.pause = w.pause
  ends : w'.stream.ends = w.stream.ends
  events : (WatchAct.read p).event?.toList ++ w'.stream.events = w.stream.events
  exhausted : w.stream.items = [] ∧ w.stream.ends = true ↔ ∃ d, p = .ended d
  kept : w.stream.items = [] → w'.stream.items = []

theorem read_of_poll {w w' : Watch α} {p : Polled α} (h : w.poll = (p, w')) : w.Read p w' := by
  unfold poll at h
  split at h <;> rename_i hi
  · cases h
    refine ⟨rfl, rfl, rfl, ?_, by simp [hi], by simp [hi]⟩
    rw [EventStream.events, EventStream.events, hi]
    rfl
  · cases h
    refine ⟨rfl, rfl, rfl, ?_, by simp [hi], by simp [hi]⟩
    rw [EventStream.events, EventStream.events, hi]
    rfl
  · cases h
    exact ⟨rfl, rfl, rfl, rfl, by simp [hi], id⟩
  · split at h <;> rename_i he
    · cases h
      exact ⟨rfl, rfl, rfl, rfl, by simp [hi, he], id⟩
    · cases h
      exact ⟨rfl, rfl, rfl, rfl, by simp [he], id⟩

/-- The next stream of a list. Silence follows the last one. -/
theorem reconnect_of_later {w : Watch α} {streams : List (EventStream α)} {n : Nat}
    (h : w.later = streams.drop n) :
    w.reconnect.stream = streams[n]?.getD .silent ∧
      w.reconnect.later = streams.drop (n + 1) := by
  unfold reconnect
  cases hl : w.later with
  | nil =>
      rw [hl, eq_comm, List.drop_eq_nil_iff] at h
      simp [List.getElem?_eq_none h, Nat.le_succ_of_le h]
  | cons s later =>
      rw [hl] at h
      have hs : streams[n]? = some s := by rw [← List.head?_drop, ← h, List.head?_cons]
      refine ⟨by rw [hs, Option.getD_some], ?_⟩
      rw [← List.tail_drop, ← h, List.tail_cons]

/-- What a watch over some streams and its log have in common at any time. -/
structure Kept (streams : List (EventStream α)) (log : List (PastAct α)) (w : Watch α) :
    Prop where
  returned : PastAct.events log ++ w.stream.events =
    (streams.take w.connects).flatMap EventStream.events
  later : w.later = streams.drop w.connects
  connects : w.connects = connections log + 1
  /-- All streams but the last one connected have ended. -/
  left : ∀ i x, i + 1 < w.connects → streams[i]? = some x → x.ends = true
  current : ∀ x, streams[w.connects - 1]? = some x → x.ends = w.stream.ends
  exhausted : hasEnded log = true → w.stream.items = [] ∧ w.stream.ends = true
  pausing : ∀ p, w.pause = some p → p.reconnect = true → AtEnd log
  connecting : Connecting log

namespace Kept

variable {streams : List (EventStream α)} {log : List (PastAct α)} {w w' : Watch α} {now : Nat}

theorem start (policy : Backoff) (streams : List (EventStream α)) :
    (Watch.start policy streams).Kept streams [] := by
  cases streams with
  | nil => exact ⟨rfl, rfl, rfl, by simp, by simp, nofun, nofun, trivial⟩
  | cons s streams =>
      refine ⟨?_, rfl, rfl, ?_, ?_, nofun, nofun, trivial⟩
      · simp [Watch.start, PastAct.events]
      · simp [Watch.start]
      · simp [Watch.start]

/-- What is left of the streams, whatever else there is to a watch. -/
theorem congr (h : w.Kept streams log) (hs : w'.stream = w.stream) (hl : w'.later = w.later)
    (hc : w'.connects = w.connects) (hp : ∀ p, w'.pause = some p → p.reconnect = true → AtEnd log) :
    w'.Kept streams log where
  returned := by rw [hs, hc, h.returned]
  later := by rw [hl, hc, h.later]
  connects := hc.trans h.connects
  left := hc ▸ h.left
  current := by rw [hs, hc]; exact h.current
  exhausted := hs ▸ h.exhausted
  pausing := hp
  connecting := h.connecting

theorem arrive (h : w.Kept streams log) :
    { w with stream := w.stream.arrive }.Kept streams log where
  returned := by rw [EventStream.events_arrive, h.returned]
  later := h.later
  connects := h.connects
  left := h.left
  current x hx := (h.current x hx).trans w.stream.ends_arrive.symm
  exhausted hover := ⟨EventStream.items_arrive_of_nil (h.exhausted hover).1,
    w.stream.ends_arrive.trans (h.exhausted hover).2⟩
  pausing := h.pausing
  connecting := h.connecting

theorem interrupt (h : w.Kept streams log) :
    w.interrupt.Kept streams (⟨.interrupted, now⟩ :: log) where
  returned := (congrArg (· ++ _) (List.append_nil _)).trans h.returned
  later := h.later
  connects := h.connects
  left := h.left
  current := h.current
  exhausted := h.exhausted
  pausing := nofun
  connecting := ⟨nofun, nofun, h.connecting⟩

theorem read (h : w.Kept streams log) (hp : w.pause = none) {p : Polled α}
    (hpoll : w.poll = (p, w')) : w'.Kept streams (⟨.read p, now⟩ :: log) := by
  have hread := read_of_poll hpoll
  have hconnects := connects_of_poll hpoll
  refine
    { returned := ?_, later := by rw [hread.later, hconnects, h.later]
      connects := hconnects.trans h.connects, left := hconnects ▸ h.left
      current := fun x hx => ?_, exhausted := fun hover => ?_
      pausing := fun q hq => ?_, connecting := ⟨nofun, fun hover q hq => ?_, h.connecting⟩ }
  · rw [PastAct.events, List.append_assoc, hread.events, hconnects, h.returned]
  · rw [hconnects] at hx
    exact (h.current x hx).trans hread.ends.symm
  · have hended : ∃ d, p = .ended d := by
      cases p with
      | ended d => exact ⟨d, rfl⟩
      | event | failed | silent => cases hover
    obtain ⟨hitems, hends⟩ := hread.exhausted.2 hended
    exact ⟨hread.kept hitems, hread.ends.trans hends⟩
  · rw [hread.pause, hp] at hq
    cases hq
  · cases hq
    exact hread.exhausted.1 (h.exhausted hover)

/-- After an end, the next stream is connected. -/
theorem reconnect (h : w.Kept streams log) (hend : AtEnd log) :
    { w.reconnect with pause := none }.Kept streams (⟨.connect, now⟩ :: log) := by
  obtain ⟨hitems, hends⟩ := h.exhausted hend.hasEnded
  obtain ⟨hstream, hlater⟩ := reconnect_of_later h.later
  have hnext : w.reconnect.connects = w.connects + 1 := w.connects_reconnect
  have hpos : 0 < w.connects := h.connects ▸ Nat.succ_pos _
  refine
    { returned := ?_, later := ?_, connects := ?_, left := ?_, current := ?_, exhausted := nofun
      pausing := nofun, connecting := ⟨fun _ => hend, nofun, h.connecting⟩ }
  · have hleft : w.stream.events = [] := by rw [EventStream.events, hitems, List.filterMap_nil]
    have hreturned := h.returned
    rw [hleft, List.append_nil] at hreturned
    simp only [hnext, hstream, List.take_add_one, List.flatMap_append, ← hreturned]
    cases streams[w.connects]? with
    | none => simp [PastAct.events, WatchAct.event?, EventStream.silent, EventStream.events]
    | some s => simp [PastAct.events, WatchAct.event?]
  · exact hlater.trans (congrArg streams.drop hnext.symm)
  · rw [hnext, h.connects]
    simp [connections]
  · intro i x hi hx
    simp only [hnext] at hi
    rcases Nat.lt_or_ge (i + 1) w.connects with hlt | hge
    · exact h.left i x hlt hx
    · rw [show i = w.connects - 1 by omega] at hx
      exact (h.current x hx).trans hends
  · intro x hx
    simp only [hnext, Nat.add_sub_cancel] at hx
    simp only [hstream, hx, Option.getD_some]

theorem wake (h : w.Kept streams log) {p : Pause} (hp : w.pause = some p) :
    w.wake.Kept streams (woken p now ++ log) := by
  simp only [Watch.wake, woken, hp]
  cases hc : p.reconnect with
  | true => exact h.reconnect (h.pausing p hp hc)
  | false => exact h.congr rfl rfl rfl fun q hq => by cases hq

/-- A pause after a failed read. Only an end makes a watch connect afterwards. -/
theorem pause {p : Polled α} (h : w.Kept streams (⟨.read p, now⟩ :: log)) {till : Nat} {c : Bool}
    (hc : c = true → ∃ d, p = .ended d) :
    { w with pause := some ⟨till, c⟩ }.Kept streams (⟨.read p, now⟩ :: log) := by
  refine h.congr rfl rfl rfl fun q hq hqc => ?_
  cases hq
  obtain ⟨d, rfl⟩ := hc hqc
  exact ⟨_, d, rfl, rfl⟩

theorem observe (h : w.Kept streams log) :
    (w.observe now).2.2.Kept streams ((w.observe now).1 ++ log) := by
  fun_induction Watch.observe w now generalizing log with
  | case1 w p hp hle ih =>
      simp only [Prod.map, id, List.append_assoc]
      exact ih (h.wake hp)
  | case2 w p hp hlt => exact h
  | case3 w hp e w' hpoll => exact h.read hp hpoll
  | case4 w hp d w' hpoll hz ih =>
      simp only [Prod.map, id, List.append_assoc]
      exact ih (h.read hp hpoll)
  | case5 w hp d w' hpoll hz => exact (h.read hp hpoll).pause fun hc => by cases hc
  | case6 w hp d w' hpoll hz ih =>
      have hnone : w'.reconnect.pause = none :=
        (w'.pause_reconnect.trans (read_of_poll hpoll).pause).trans hp
      have hnext : { w'.reconnect with pause := none }.Kept streams
          (⟨.connect, now⟩ :: ⟨.read (.ended d), now⟩ :: log) :=
        (h.read hp hpoll).reconnect ⟨_, d, rfl, rfl⟩
      simp only [Prod.map, id, List.append_assoc]
      exact ih (hnext.congr rfl rfl rfl (by simp [hnone]))
  | case7 w hp d w' hpoll hz => exact (h.read hp hpoll).pause fun _ => ⟨d, rfl⟩
  | case8 w hp w' hpoll => exact h.read hp hpoll

end Kept

theorem events_woken (p : Pause) (now : Nat) (log : List (PastAct α)) :
    PastAct.events (woken p now ++ log) = PastAct.events log := by
  unfold woken
  split
  · exact List.append_nil _
  · rfl

/-- What a call returns is the event that was read. -/
theorem events_observe (w : Watch α) (now : Nat) (log : List (PastAct α)) :
    PastAct.events ((w.observe now).1 ++ log) =
      PastAct.events log ++ (w.observe now).2.1.toList := by
  fun_induction Watch.observe w now generalizing log with
  | case1 w p hp hle ih =>
      simp only [Prod.map, id, List.append_assoc]
      rw [ih, events_woken]
  | case2 | case3 | case5 | case7 | case8 => simp [PastAct.events, WatchAct.event?]
  | case4 w hp d w' hpoll hz ih =>
      simp only [Prod.map, id, List.append_assoc]
      rw [ih]
      simp [PastAct.events, WatchAct.event?]
  | case6 w hp d w' hpoll hz ih =>
      simp only [Prod.map, id, List.append_assoc]
      rw [ih]
      simp [PastAct.events, WatchAct.event?]

/-! ### Streams that were not connected -/

/-- A watch with more streams to connect. -/
def extend (w : Watch α) (more : List (EventStream α)) : Watch α :=
  { w with later := w.later ++ more }

/-- The number of the streams that were and will be connected. -/
def reach (w : Watch α) : Nat := w.connects + w.later.length

theorem observe_of_pause {w : Watch α} {p : Pause} (h : w.pause = some p) (now : Nat) :
    w.observe now =
      if p.till ≤ now then (w.wake.observe now).map (· ++ woken p now) id else ([], none, w) := by
  rw [observe]
  split
  · rename_i hp
    cases h.symm.trans hp
    rfl
  · rename_i hp
    cases h.symm.trans hp

theorem observe_of_ready {w : Watch α} (h : w.pause = none) (now : Nat) :
    w.observe now =
      match w.poll with
      | (.event e, w') => ([⟨.read (.event e), now⟩], some e, w')
      | (.failed d, w') =>
        if d.sleepMillis = 0 then
          (w'.observe now).map (· ++ [⟨.read (.failed d), now⟩]) id
        else
          ([⟨.read (.failed d), now⟩], none,
            { w' with pause := some ⟨now + d.sleepMillis, false⟩ })
      | (.ended d, w') =>
        if d.sleepMillis = 0 then
          (w'.reconnect.observe now).map (· ++ [⟨.connect, now⟩, ⟨.read (.ended d), now⟩]) id
        else
          ([⟨.read (.ended d), now⟩], none,
            { w' with pause := some ⟨now + d.sleepMillis, true⟩ })
      | (.silent, w') => ([⟨.read .silent, now⟩], none, w') := by
  rw [observe]
  split
  · rename_i hp
    cases h.symm.trans hp
  · split <;> rename_i hpoll <;> rw [hpoll]

theorem poll_extend (w : Watch α) (more : List (EventStream α)) :
    (w.extend more).poll = w.poll.map id (·.extend more) := by
  unfold poll extend
  cases w.stream.items with
  | nil =>
      simp only
      split <;> rfl
  | cons item items => cases item <;> rfl

/-- There is a stream left to connect. -/
theorem reconnect_extend {w : Watch α} (h : w.connects < w.reach) (more : List (EventStream α)) :
    (w.extend more).reconnect = w.reconnect.extend more ∧ w.reconnect.reach = w.reach := by
  unfold reach reconnect extend
  cases hl : w.later with
  | nil => simp [reach, hl] at h
  | cons s later => simp [Nat.add_assoc, Nat.add_comm]

theorem wake_extend {w : Watch α} (h : w.wake.connects ≤ w.reach) (more : List (EventStream α)) :
    (w.extend more).wake = w.wake.extend more ∧ w.wake.reach = w.reach := by
  cases hp : w.pause with
  | none => simp [wake, extend, hp]
  | some p =>
      cases hc : p.reconnect with
      | false => simp [wake, extend, reach, hp, hc]
      | true =>
          have hwake : w.wake = { w.reconnect with pause := none } := by simp [wake, hp, hc]
          have hextend :
              (w.extend more).wake = { (w.extend more).reconnect with pause := none } := by
            simp [wake, extend, hp, hc]
          rw [hwake] at h
          obtain ⟨hnext, hreach⟩ :=
            reconnect_extend (Nat.lt_of_succ_le (w.connects_reconnect ▸ h)) more
          rw [hextend, hnext, hwake]
          exact ⟨rfl, hreach⟩

theorem reach_of_poll {w w' : Watch α} {p : Polled α} (h : w.poll = (p, w')) :
    w'.reach = w.reach := by
  rw [reach, (read_of_poll h).later, connects_of_poll h, reach]

theorem connects_le_wake (w : Watch α) : w.connects ≤ w.wake.connects := by
  unfold wake
  split
  · exact Nat.le_refl _
  · split
    · exact Nat.le_trans (Nat.le_succ _) (Nat.le_of_eq w.connects_reconnect.symm)
    · exact Nat.le_refl _

theorem connects_le_observe (w : Watch α) (now : Nat) :
    w.connects ≤ (w.observe now).2.2.connects := by
  fun_induction Watch.observe w now with
  | case1 w p hp hle ih => exact Nat.le_trans w.connects_le_wake ih
  | case2 => exact Nat.le_refl _
  | case3 w hp e w' hpoll => exact Nat.le_of_eq (connects_of_poll hpoll).symm
  | case4 w hp d w' hpoll hz ih => exact connects_of_poll hpoll ▸ ih
  | case5 w hp d w' hpoll hz => exact Nat.le_of_eq (connects_of_poll hpoll).symm
  | case6 w hp d w' hpoll hz ih =>
      rw [connects_reconnect, connects_of_poll hpoll] at ih
      exact Nat.le_of_succ_le ih
  | case7 w hp d w' hpoll hz => exact Nat.le_of_eq (connects_of_poll hpoll).symm
  | case8 w hp w' hpoll => exact Nat.le_of_eq (connects_of_poll hpoll).symm

theorem observe_extend {w : Watch α} {now : Nat} (h : (w.observe now).2.2.connects ≤ w.reach)
    (more : List (EventStream α)) :
    (w.extend more).observe now = (w.observe now).map id (·.map id (·.extend more)) := by
  fun_induction Watch.observe w now with
  | case1 w p hp hle ih =>
      obtain ⟨hwake, hreach⟩ := wake_extend (Nat.le_trans (w.wake.connects_le_observe now) h) more
      rw [observe_of_pause (w := w.extend more) hp, if_pos hle, hwake, ih (hreach.symm ▸ h)]
      rfl
  | case2 w p hp hlt =>
      rw [observe_of_pause (w := w.extend more) hp, if_neg hlt]
      rfl
  | case3 w hp e w' hpoll =>
      rw [observe_of_ready (w := w.extend more) hp, poll_extend, hpoll]
      rfl
  | case4 w hp d w' hpoll hz ih =>
      rw [observe_of_ready (w := w.extend more) hp, poll_extend, hpoll]
      refine (if_pos hz).trans ?_
      exact congrArg (Prod.map (· ++ _) id) (ih ((reach_of_poll hpoll).symm ▸ h))
  | case5 w hp d w' hpoll hz =>
      rw [observe_of_ready (w := w.extend more) hp, poll_extend, hpoll]
      exact if_neg hz
  | case6 w hp d w' hpoll hz ih =>
      have hnext : w'.reconnect.connects ≤ w'.reach :=
        Nat.le_trans (w'.reconnect.connects_le_observe now) ((reach_of_poll hpoll).symm ▸ h)
      obtain ⟨hreconnect, hreach⟩ :=
        reconnect_extend (Nat.lt_of_succ_le (w'.connects_reconnect ▸ hnext)) more
      rw [observe_of_ready (w := w.extend more) hp, poll_extend, hpoll]
      refine (if_pos hz).trans ?_
      rw [hreconnect, ih (hreach.trans (reach_of_poll hpoll) ▸ h)]
      rfl
  | case7 w hp d w' hpoll hz =>
      rw [observe_of_ready (w := w.extend more) hp, poll_extend, hpoll]
      exact if_neg hz
  | case8 w hp w' hpoll =>
      rw [observe_of_ready (w := w.extend more) hp, poll_extend, hpoll]
      rfl

end Watch

/-! ### Calls that are dropped and made again -/

/-- What happens to a watch over streams: time passes, a silence on the current stream is over, a
call is made or comes back, or the wait of the current call is given up. -/
inductive WatchTurn where
  | pass (ms : Nat)
  | arrive
  | receive
  | interrupt
  deriving DecidableEq, Repr

/-- A watch in time, with the events that its calls have returned. -/
structure WatchCalls (α : Type) where
  observed : ObservedWatch α
  returned : List (WatchEvent α) := []
  deriving DecidableEq, Repr

namespace WatchCalls

open PastAct CourseItem

def step (s : WatchCalls α) : WatchTurn → WatchCalls α
  | .pass ms => { s with observed := s.observed.step (.pass ms) }
  | .arrive =>
    let w := s.observed.watch
    { s with observed := s.observed.step (.change w.stream.arrive w.later) }
  | .receive =>
    { observed := s.observed.step .receive
      returned := s.returned ++ (s.observed.watch.receive s.observed.now).1.toList }
  | .interrupt => { s with observed := s.observed.step .interrupt }

def run (policy : Backoff) (streams : List (EventStream α)) (turns : List WatchTurn) :
    WatchCalls α :=
  turns.foldl step { observed := .start policy streams }

/-- Nothing is lost or repeated: what was returned, followed by what is left of the current stream,
are the events of the streams connected so far. The next stream is connected right after the end of
the current one, unless the wait for it is given up, and then the stream is still over when it is
read again; it is never connected for any other reason. Every failure calls for the delay that the
policy gives for those since the last event, and the delay passes unless it is given up. -/
structure Faithful (policy : Backoff) (streams : List (EventStream α)) (s : WatchCalls α) :
    Prop where
  returned : s.returned ++ s.observed.watch.stream.events =
    (streams.take s.observed.watch.connects).flatMap EventStream.events
  connects : s.observed.watch.connects = connections s.observed.log + 1
  left : ∀ i x, i + 1 < s.observed.watch.connects → streams[i]? = some x → x.ends = true
  connected : ∀ later x earlier, s.observed.log = later ++ x :: earlier →
    (x.act = .connect ↔ x.act ≠ .interrupted ∧ AtEnd earlier) ∧
      (hasEnded earlier = true → ∀ p, x.act = .read p → ∃ d, p = .ended d)
  waited : ∀ later y earlier d, s.observed.log = later ++ y :: earlier →
    y.act.delay? = some d →
      d = policy.delay (attempted earlier) ∧
        ((∀ x, later.getLast? = some x → x.act ≠ .interrupted) →
          ∀ x ∈ later, y.time + d.sleepMillis ≤ x.time)

/-- The watch is where its log leads, over the streams it has connected, and its calls have returned
the events of the log. -/
structure MatchesLog (policy : Backoff) (streams : List (EventStream α)) (s : WatchCalls α) :
    Prop where
  sound : s.observed.watch.Sound policy s.observed.log s.observed.now
  kept : s.observed.watch.Kept streams s.observed.log
  returned : s.returned = PastAct.events s.observed.log

variable {policy : Backoff} {streams : List (EventStream α)} {s : WatchCalls α}

theorem MatchesLog.step (h : s.MatchesLog policy streams) (turn : WatchTurn) :
    (s.step turn).MatchesLog policy streams := by
  cases turn with
  | pass ms => exact ⟨ObservedWatch.sound_step h.sound _, h.kept, h.returned⟩
  | arrive => exact ⟨ObservedWatch.sound_step h.sound _, h.kept.arrive, h.returned⟩
  | receive =>
      refine ⟨ObservedWatch.sound_step h.sound _, h.kept.observe, ?_⟩
      simp only [WatchCalls.step, ObservedWatch.step, Watch.events_observe, h.returned,
        ← Watch.observe_snd]
  | interrupt =>
      refine ⟨ObservedWatch.sound_step h.sound _, h.kept.interrupt, ?_⟩
      exact h.returned.trans (List.append_nil _).symm

theorem run_concat (policy : Backoff) (streams : List (EventStream α)) (turns : List WatchTurn)
    (turn : WatchTurn) :
    run policy streams (turns ++ [turn]) = (run policy streams turns).step turn := by
  rw [run, List.foldl_append]
  rfl

theorem matchesLog_run (policy : Backoff) (streams : List (EventStream α))
    (turns : List WatchTurn) :
    (run policy streams turns).MatchesLog policy streams := by
  induction turns using List.reverseRecOn with
  | nil => exact ⟨ObservedWatch.sound_start policy streams, .start policy streams, rfl⟩
  | append_singleton turns turn ih => exact run_concat policy streams turns turn ▸ ih.step turn

theorem MatchesLog.faithful (h : s.MatchesLog policy streams) : s.Faithful policy streams where
  returned := h.returned ▸ h.kept.returned
  connects := h.kept.connects
  left := h.kept.left
  connected := by
    intro later x earlier hlog
    have horderly := h.sound.orderly
    have hconnecting := h.kept.connecting
    rw [hlog] at horderly hconnecting
    obtain ⟨hconnect, hover, -⟩ := hconnecting.of_append
    refine ⟨⟨fun hx => ⟨by rw [hx]; nofun, hconnect hx⟩, ?_⟩, hover⟩
    rintro ⟨hx, y, d, hy, hend⟩
    exact (horderly.of_append.1.waited y d hy (by rw [hend]; rfl) hx).2 hend
  waited := by
    intro later y earlier d hlog hd
    have horderly := h.sound.orderly
    rw [hlog] at horderly
    refine ⟨?_, horderly.waited_in_full hd⟩
    rw [horderly.of_append.1.delay d hd, Backoff.delay_min]

def extend (s : WatchCalls α) (more : List (EventStream α)) : WatchCalls α :=
  { s with observed := { s.observed with watch := s.observed.watch.extend more } }

theorem connects_le_step (s : WatchCalls α) (turn : WatchTurn) :
    s.observed.watch.connects ≤ (s.step turn).observed.watch.connects := by
  cases turn with
  | receive => exact s.observed.watch.connects_le_observe s.observed.now
  | pass | arrive | interrupt => exact Nat.le_refl _

theorem step_extend {turn : WatchTurn}
    (h : (s.step turn).observed.watch.connects ≤ s.observed.watch.reach)
    (more : List (EventStream α)) : (s.extend more).step turn = (s.step turn).extend more := by
  cases turn with
  | receive =>
      have hobserve := Watch.observe_extend h more
      simp only [step, extend, ObservedWatch.step, ← Watch.observe_snd, hobserve]
      rfl
  | pass | arrive | interrupt => rfl

/-- What is not connected does not matter. -/
theorem run_append (turns : List WatchTurn) (more : List (EventStream α))
    (h : (run policy streams turns).observed.watch.connects ≤ streams.length) :
    run policy (streams ++ more) turns = (run policy streams turns).extend more := by
  induction turns using List.reverseRecOn with
  | nil =>
      cases streams with
      | nil => cases h
      | cons s streams => rfl
  | append_singleton turns turn ih =>
      rw [run_concat] at h
      have hlt := Nat.le_trans (connects_le_step _ turn) h
      have hreach : (run policy streams turns).observed.watch.reach = streams.length := by
        rw [Watch.reach, (matchesLog_run policy streams turns).kept.later, List.length_drop]
        omega
      rw [run_concat, run_concat, ih hlt, step_extend (hreach.symm ▸ h)]

/-- A watch loses and repeats nothing, whatever the streams, the policy and the turns it takes
(`Faithful`); streams that were not connected do not matter, so that there may be any number of
them. Calls that are left alone read the course of the streams up to as many events, with one
connection more than they read ends. They wait for the failures among what they read, each by the
number of those since the last event, and for nothing else. -/
theorem streams_watched (policy : Backoff) (streams : List (EventStream α)) :
    (∀ turns, (run policy streams turns).Faithful policy streams) ∧
      (∀ turns more, (run policy streams turns).observed.watch.connects ≤ streams.length →
        run policy (streams ++ more) turns = (run policy streams turns).extend more) ∧
      ∀ n,
        let w := Watch.start policy streams
        let read := upTo n (EventStream.courses streams)
        (w.recvs n).1 = waits policy 0 read ∧
          (w.recvs n).2.1 = read.filterMap CourseItem.event? ∧
          (w.recvs n).2.2.connects = ends read + 1 ∧
          ∀ now es w' till, w.Awaited n now es w' till ↔
            es = read.filterMap CourseItem.event? ∧ w' = (w.recvs n).2.2 ∧
              till = now + ((waits policy 0 read).map Duration.sleepMillis).sum := by
  refine ⟨fun turns => (matchesLog_run policy streams turns).faithful,
    fun turns more => run_append turns more, fun n => ?_⟩
  intro w read
  have hcounts : w.Counts policy 0 := (Watch.retry_start policy streams).trans (by simp)
  have hconnects : w.connects = 1 := (Watch.Kept.start policy streams).connects
  obtain ⟨hwaits, hevents, hends⟩ := Watch.recvs_reads hcounts n
  have hawaited := Watch.awaited_recvs (Watch.pause_start policy streams) n
  simp only [w, Watch.course_start] at hwaits hevents hends
  refine ⟨hwaits, hevents, ?_, fun now es w' till => ?_⟩
  · rw [hends, hconnects, Nat.add_comm]
  · rw [← hwaits, ← hevents]
    refine ⟨fun h => h.unique (hawaited now), ?_⟩
    rintro ⟨rfl, rfl, rfl⟩
    exact hawaited now

/-- A stream falls silent between two events and ends. The wait for its end is given up, and then a
second stream is connected, which fails once. -/
def droppedCalls : List WatchTurn :=
  [.receive, .receive, .arrive, .receive, .receive, .pass 400, .interrupt, .receive, .pass 2000,
    .receive, .pass 1000, .receive]

def silentStreams : List (EventStream Unit) :=
  [{ items := [.event .init, .silence, .event .initDone] },
    { items := [.failure, .event (.delete ())], ends := false }]

/-- All events are returned, and two streams were connected. -/
theorem droppedCalls_faithful :
    let s := run ObservedWatch.everySecond silentStreams droppedCalls
    s.returned = [.init, .initDone, .delete ()] ∧ s.observed.watch.connects = 2 ∧
      s.Faithful ObservedWatch.everySecond silentStreams := by
  have h := streams_watched ObservedWatch.everySecond silentStreams
  exact ⟨by decide +kernel, by decide +kernel, h.1 droppedCalls⟩

end WatchCalls

end WafControl
