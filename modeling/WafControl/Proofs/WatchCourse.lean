import Mathlib.Algebra.Ring.Nat
import WafControl.Proofs.WatchWaits

/-!
# The course of a watch

The course of a watch is what is read from its streams, one after the other: events, failures and
the ends of streams (`Watch.course`). A call that is left alone reads on to the next event, and
waits for the failures before it as the policy says (`recv_reads`); so calls made one after the
other have read a part of the course that is known beforehand (`recvs_reads`). What they wait is the
time that passes if whoever makes them comes back whenever a pause is over (`awaited_recvs`).
-/

namespace WafControl

/-- The count of the attempts ends far beyond the last doubling. -/
theorem Backoff.delay_min (policy : Backoff) (k : Nat) :
    policy.delay (min k Retry.maxAttempts) = policy.delay k := by
  have hmin : min (min k Retry.maxAttempts) maxDoublings = min k maxDoublings := by
    rw [Nat.min_assoc]
    congr 1
  cases policy with
  | fixed d => rfl
  | exponential least greatest => rw [delay, delay, hmin]

/-- What the course of a watch consists of. -/
inductive CourseItem (α : Type) where
  | event (e : WatchEvent α)
  | failure
  | ended
  deriving DecidableEq, Repr

variable {α : Type}

namespace CourseItem

def event? : CourseItem α → Option (WatchEvent α)
  | event e => some e
  | _ => none

/-- The waits that a course calls for after so many failures: each failure and each end is waited
for by the number of those since the last event. -/
def waits (policy : Backoff) : Nat → List (CourseItem α) → List Duration
  | _, [] => []
  | _, event _ :: rest => waits policy 0 rest
  | k, failure :: rest => policy.delay k :: waits policy (k + 1) rest
  | k, ended :: rest => policy.delay k :: waits policy (k + 1) rest

/-- The streams that a course leaves behind. -/
def ends (course : List (CourseItem α)) : Nat := course.countP (· matches ended)

/-- The part of a course up to so many events, or all of it if there are fewer. -/
def upTo : Nat → List (CourseItem α) → List (CourseItem α)
  | 0, _ => []
  | _ + 1, [] => []
  | n + 1, event e :: rest => event e :: upTo n rest
  | n + 1, failure :: rest => failure :: upTo (n + 1) rest
  | n + 1, ended :: rest => ended :: upTo (n + 1) rest

variable {policy : Backoff} {k n : Nat} {failing rest : List (CourseItem α)} {e : WatchEvent α}

/-- Failures do not count as events. -/
theorem upTo_append (h : ∀ x ∈ failing, x.event? = none) :
    upTo (n + 1) (failing ++ rest) = failing ++ upTo (n + 1) rest := by
  induction failing with
  | nil => rfl
  | cons x failing ih =>
      obtain ⟨hx, hrest⟩ := List.forall_mem_cons.1 h
      cases x with
      | event e => cases hx
      | failure | ended => rw [List.cons_append, upTo, ih hrest, List.cons_append]

theorem waits_event (h : ∀ x ∈ failing, x.event? = none) :
    waits policy k (failing ++ event e :: rest) =
      waits policy k failing ++ waits policy 0 rest := by
  induction failing generalizing k with
  | nil => rfl
  | cons x failing ih =>
      obtain ⟨hx, hrest⟩ := List.forall_mem_cons.1 h
      cases x with
      | event e => cases hx
      | failure | ended => rw [List.cons_append, waits, waits, ih hrest, List.cons_append]

end CourseItem

namespace EventStream

/-- What is read from a list of items before what follows them. Nothing behind a silence is. -/
def courseOf (next : List (CourseItem α)) : List (StreamItem α) → List (CourseItem α)
  | [] => next
  | .event e :: items => .event e :: courseOf next items
  | .failure :: items => .failure :: courseOf next items
  | .silence :: _ => []

def course (s : EventStream α) (next : List (CourseItem α)) : List (CourseItem α) :=
  courseOf (if s.ends then .ended :: next else []) s.items

/-- What is read from streams that are connected one after the other. -/
def courses (streams : List (EventStream α)) : List (CourseItem α) := streams.foldr course []

end EventStream

namespace Watch

open CourseItem

def course (w : Watch α) : List (CourseItem α) := w.stream.course (EventStream.courses w.later)

theorem course_start (policy : Backoff) (streams : List (EventStream α)) :
    (start policy streams).course = EventStream.courses streams := by
  cases streams <;> rfl

theorem retry_start (policy : Backoff) (streams : List (EventStream α)) :
    (start policy streams).retry = ⟨policy, 0⟩ := by
  cases streams <;> rfl

/-- The course of a watch by what reading its stream once has come to. -/
def courseAfter (w : Watch α) : Polled α → List (CourseItem α)
  | .event e => .event e :: w.course
  | .failed _ => .failure :: w.course
  | .ended _ => .ended :: w.reconnect.course
  | .silent => []

theorem course_eq_of_poll {w w' : Watch α} {p : Polled α} (h : w.poll = (p, w')) :
    w.course = w'.courseAfter p := by
  unfold poll at h
  split at h <;> rename_i hi
  · cases h
    simp [courseAfter, course, EventStream.course, EventStream.courseOf, hi]
  · cases h
    simp [courseAfter, course, EventStream.course, EventStream.courseOf, hi]
  · cases h
    simp [courseAfter, course, EventStream.course, EventStream.courseOf, hi]
  · split at h <;> rename_i he
    · cases h
      simp only [courseAfter, course, reconnect]
      cases w.later <;>
        simp [EventStream.course, EventStream.courseOf, EventStream.courses, EventStream.silent,
          hi, he]
    · cases h
      simp [courseAfter, course, EventStream.course, EventStream.courseOf, hi, he]

theorem connects_of_poll {w w' : Watch α} {p : Polled α} (h : w.poll = (p, w')) :
    w'.connects = w.connects := by
  unfold poll at h
  split at h
  · cases h
    rfl
  · cases h
    rfl
  · cases h
    rfl
  · split at h <;> cases h <;> rfl

theorem connects_reconnect (w : Watch α) : w.reconnect.connects = w.connects + 1 := by
  unfold reconnect
  split <;> rfl

/-- The attempts of a watch that has had so many failures since the last event. -/
def Counts (policy : Backoff) (k : Nat) (w : Watch α) : Prop :=
  w.retry = ⟨policy, min k Retry.maxAttempts⟩

theorem counts_of_delay {policy : Backoff} {k : Nat} {w w' : Watch α} {p : Polled α} {d : Duration}
    (hk : w.Counts policy k) (h : w.poll = (p, w')) (hd : (WatchAct.read p).delay? = some d) :
    d = policy.delay k ∧ w'.Counts policy (k + 1) := by
  obtain ⟨hdelay, hadvance, -⟩ := poll_of_delay h hd
  rw [Counts] at hk
  refine ⟨?_, ?_⟩
  · rw [hdelay, hk, Retry.delay, Backoff.delay_min]
  · rw [Counts, hadvance, hk, Retry.advance]
    congr 1
    simp only
    omega

/-- What a call has read that was left alone after so many failures: what it waited for, and the
event after that, if there is one. -/
structure Reads (policy : Backoff) (k : Nat) (w : Watch α)
    (r : List Duration × Option (WatchEvent α) × Watch α) (before : List (CourseItem α)) :
    Prop where
  failing : ∀ x ∈ before, x.event? = none
  waits : r.1 = waits policy k before
  connects : r.2.2.connects = w.connects + ends before
  course : w.course = before ++ r.2.1.elim [] fun e => .event e :: r.2.2.course
  counts : r.2.1.isSome → r.2.2.Counts policy 0

theorem recv_reads {policy : Backoff} {k : Nat} {w : Watch α} (hk : w.Counts policy k) :
    ∃ before, Reads policy k w w.recv before := by
  fun_induction recv w generalizing k with
  | case1 w e w' hpoll =>
      refine ⟨[], by simp, rfl, connects_of_poll hpoll, course_eq_of_poll hpoll, fun _ => ?_⟩
      rw [Counts, (poll_event hpoll).1, show w.retry = _ from hk, Retry.reset]
      rfl
  | case2 w d w' hpoll rest =>
      rename_i ih
      obtain ⟨rfl, hk'⟩ := counts_of_delay hk hpoll rfl
      obtain ⟨before, hfailing, hwaits, hconnects, hcourse, hcounts⟩ := ih hk'
      refine ⟨.failure :: before, ?_, ?_, ?_, ?_, hcounts⟩
      · exact List.forall_mem_cons.2 ⟨rfl, hfailing⟩
      · exact congrArg (List.cons _) hwaits
      · rw [hconnects, connects_of_poll hpoll]
        rfl
      · exact (course_eq_of_poll hpoll).trans (congrArg (List.cons _) hcourse)
  | case3 w d w' hpoll rest =>
      rename_i ih
      obtain ⟨rfl, hk'⟩ := counts_of_delay hk hpoll rfl
      obtain ⟨before, hfailing, hwaits, hconnects, hcourse, hcounts⟩ :=
        ih (k := k + 1) ((retry_reconnect w').trans hk')
      refine ⟨.ended :: before, ?_, ?_, ?_, ?_, hcounts⟩
      · exact List.forall_mem_cons.2 ⟨rfl, hfailing⟩
      · exact congrArg (List.cons _) hwaits
      · rw [hconnects, connects_reconnect, connects_of_poll hpoll]
        simp [ends, Nat.add_assoc, Nat.add_comm]
      · exact (course_eq_of_poll hpoll).trans (congrArg (List.cons _) hcourse)
  | case4 w w' hpoll =>
      exact ⟨[], by simp, rfl, connects_of_poll hpoll, course_eq_of_poll hpoll, by simp⟩

/-- So many calls made one after the other. A call that stays silent does not return. -/
def recvs : Nat → Watch α → List Duration × List (WatchEvent α) × Watch α
  | 0, w => ([], [], w)
  | n + 1, w =>
    match w.recv with
    | (ds, some e, w') =>
      let rest := recvs n w'
      (ds ++ rest.1, e :: rest.2.1, rest.2.2)
    | (ds, none, w') => (ds, [], w')

/-- Calls that are left alone read the course up to as many events, and wait for the failures among
them. -/
theorem recvs_reads {policy : Backoff} {k : Nat} {w : Watch α} (hk : w.Counts policy k) (n : Nat) :
    (w.recvs n).1 = waits policy k (upTo n w.course) ∧
      (w.recvs n).2.1 = (upTo n w.course).filterMap event? ∧
      (w.recvs n).2.2.connects = w.connects + ends (upTo n w.course) := by
  induction n generalizing k w with
  | zero => simp [recvs, upTo, waits, ends]
  | succ n ih =>
      obtain ⟨before, hfailing, hwaits, hconnects, hcourse, hcounts⟩ := recv_reads hk
      have hnone : before.filterMap event? = [] := List.filterMap_eq_nil_iff.2 hfailing
      unfold recvs
      rcases hr : w.recv with ⟨ds, e | e, w'⟩ <;> rw [hr] at hwaits hconnects hcourse hcounts
      · have hupTo : upTo (n + 1) w.course = before := by
          rw [hcourse, upTo_append hfailing]
          exact List.append_nil _
        rw [hupTo]
        exact ⟨hwaits, hnone.symm, hconnects⟩
      · obtain ⟨ihwaits, ihevents, ihconnects⟩ := ih (hcounts rfl)
        have hupTo : upTo (n + 1) w.course = before ++ .event e :: upTo n w'.course := by
          rw [hcourse, upTo_append hfailing]
          rfl
        rw [hupTo]
        refine ⟨?_, ?_, ?_⟩
        · rw [waits_event hfailing, ← ihwaits]
          exact congrArg (· ++ _) hwaits
        · simp [hnone, event?, ihevents]
        · simp only at ihconnects hconnects
          simp [ihconnects, hconnects, ends, Nat.add_assoc]

/-! ### Calls in time -/

/-- So many calls are made from a time on, and nobody gives up a wait: whoever waits comes back at
the end of each pause. The calls give events by a further time, and leave a watch. A call on a
silent stream does not return. -/
inductive Awaited : Nat → Watch α → Nat → List (WatchEvent α) → Watch α → Nat → Prop where
  | done (w : Watch α) (now : Nat) : Awaited 0 w now [] w now
  | event {n now till : Nat} {w w' w'' : Watch α} {e : WatchEvent α} {es : List (WatchEvent α)} :
    w.receive now = (some e, w') → Awaited n w' now es w'' till →
      Awaited (n + 1) w now (e :: es) w'' till
  | pause {n now till : Nat} {w w' w'' : Watch α} {p : Pause} {es : List (WatchEvent α)} :
    w.receive now = (none, w') → w'.pause = some p → Awaited (n + 1) w' p.till es w'' till →
      Awaited (n + 1) w now es w'' till
  | silent {n now : Nat} {w w' : Watch α} :
    w.receive now = (none, w') → w'.pause = none → Awaited (n + 1) w now [] w' now

variable {n now till : Nat} {w w' w'' : Watch α} {es : List (WatchEvent α)}

theorem Awaited.of_receive_eq (heq : w.receive now = w'.receive now)
    (h : Awaited (n + 1) w' now es w'' till) : Awaited (n + 1) w now es w'' till := by
  cases h with
  | event hr h => exact .event (heq.trans hr) h
  | pause hr hp h => exact .pause (heq.trans hr) hp h
  | silent hr hp => exact .silent (heq.trans hr) hp

/-- What calls come to that are left alone is settled when they are made. -/
theorem Awaited.unique {es' : List (WatchEvent α)} {v : Watch α} {till' : Nat}
    (h : Awaited n w now es w' till) (h' : Awaited n w now es' v till') :
    es = es' ∧ w' = v ∧ till = till' := by
  induction h generalizing es' with
  | done =>
      cases h'
      exact ⟨rfl, rfl, rfl⟩
  | event hr _ ih =>
      cases h' with
      | event hr' h' =>
          cases hr.symm.trans hr'
          obtain ⟨rfl, hw, htill⟩ := ih h'
          exact ⟨rfl, hw, htill⟩
      | pause hr' | silent hr' => cases hr.symm.trans hr'
  | pause hr hp _ ih =>
      cases h' with
      | event hr' => cases hr.symm.trans hr'
      | pause hr' hp' h' =>
          cases hr.symm.trans hr'
          cases hp.symm.trans hp'
          exact ih h'
      | silent hr' hp' =>
          cases hr.symm.trans hr'
          cases hp.symm.trans hp'
  | silent hr hp =>
      cases h' with
      | event hr' => cases hr.symm.trans hr'
      | pause hr' hp' =>
          cases hr.symm.trans hr'
          cases hp.symm.trans hp'
      | silent hr' =>
          cases hr.symm.trans hr'
          exact ⟨rfl, rfl, rfl⟩

/-- A wait is over when its delay has passed, which is at once if it takes no time. -/
theorem Awaited.of_delay {d : Duration} {paused : Watch α} {c : Bool}
    (hreceive : w.receive now = if d.sleepMillis = 0 then w'.receive now else (none, paused))
    (hpause : paused.pause = some ⟨now + d.sleepMillis, c⟩) (hwake : paused.wake = w')
    (h : Awaited (n + 1) w' (now + d.sleepMillis) es w'' till) :
    Awaited (n + 1) w now es w'' till := by
  by_cases hz : d.sleepMillis = 0
  · rw [hz, Nat.add_zero] at h
    exact .of_receive_eq (hreceive.trans (if_pos hz)) h
  · refine .pause (hreceive.trans (if_neg hz)) hpause (.of_receive_eq ?_ h)
    rw [receive_of_pause hpause, if_pos (Nat.le_refl _), hwake]

/-- A call made at a time comes to the given outcome after the given waits, and the calls that
follow go on from there. -/
def Delivers (n : Nat) (w : Watch α) (now : Nat) :
    List Duration × Option (WatchEvent α) × Watch α → Prop
  | (ds, some e, w') =>
    w'.pause = none ∧ ∀ es w'' till,
      Awaited n w' (now + (ds.map Duration.sleepMillis).sum) es w'' till →
        Awaited (n + 1) w now (e :: es) w'' till
  | (ds, none, w') => Awaited (n + 1) w now [] w' (now + (ds.map Duration.sleepMillis).sum)

theorem Delivers.of_delay {d : Duration} {r : List Duration × Option (WatchEvent α) × Watch α}
    (h : Delivers n w' (now + d.sleepMillis) r)
    (hwait : ∀ {es w'' till}, Awaited (n + 1) w' (now + d.sleepMillis) es w'' till →
      Awaited (n + 1) w now es w'' till) : Delivers n w now (d :: r.1, r.2) := by
  rcases r with ⟨ds, e | e, w''⟩ <;>
    simp only [Delivers, List.map_cons, List.sum_cons, ← Nat.add_assoc] at h ⊢
  · exact hwait h
  · exact ⟨h.1, fun es w'' till hrest => hwait (h.2 es w'' till hrest)⟩

/-- A call that nobody gives up comes to what `recv` comes to, and takes as long as `recv` waits. -/
theorem delivers_recv (hp : w.pause = none) (n now : Nat) : Delivers n w now w.recv := by
  fun_induction recv w generalizing now with
  | case1 w e w' hpoll =>
      refine ⟨(poll_event hpoll).2.trans hp, fun es w'' till h => .event ?_ h⟩
      rw [receive_of_ready hp, hpoll]
  | case2 w d w' hpoll rest =>
      rename_i ih
      have hnone : w'.pause = none := (poll_of_delay hpoll rfl).2.2.trans hp
      have hreceive := receive_of_ready hp now
      rw [hpoll] at hreceive
      refine (ih hnone (now + d.sleepMillis)).of_delay fun h => .of_delay hreceive rfl ?_ h
      simp [wake, ← hnone]
  | case3 w d w' hpoll rest =>
      rename_i ih
      have hnone : w'.pause = none := (poll_of_delay hpoll rfl).2.2.trans hp
      have hreceive := receive_of_ready hp now
      rw [hpoll] at hreceive
      refine (ih ((pause_reconnect w').trans hnone) (now + d.sleepMillis)).of_delay fun h =>
        .of_delay hreceive rfl ?_ h
      unfold wake reconnect
      cases w'.later <;> simp [← hnone]
  | case4 w w' hpoll =>
      have hnone : w'.pause = none := (congrArg pause (poll_silent hpoll)).trans hp
      exact .silent (by rw [receive_of_ready hp, hpoll]) hnone

theorem awaited_recvs (hp : w.pause = none) (n now : Nat) :
    Awaited n w now (w.recvs n).2.1 (w.recvs n).2.2
      (now + ((w.recvs n).1.map Duration.sleepMillis).sum) := by
  induction n generalizing w now with
  | zero => exact .done w now
  | succ n ih =>
      have h := delivers_recv hp n now
      unfold recvs
      rcases hr : w.recv with ⟨ds, e | e, w'⟩ <;> rw [hr] at h
      · exact h
      · refine h.2 _ _ _ ?_
        simpa [Nat.add_assoc] using ih h.1 (now + (ds.map Duration.sleepMillis).sum)

theorem pause_start (policy : Backoff) (streams : List (EventStream α)) :
    (start policy streams).pause = none := by
  cases streams <;> rfl

end Watch

end WafControl
