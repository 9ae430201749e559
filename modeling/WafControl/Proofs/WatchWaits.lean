import WafControl.Cluster.Informer

/-!
# How a watch waits

A watch reads its stream, waits out every failure and connects again after an end. Whoever reads it
may give a wait up, and the watch then reads at once. What a watch did is logged with the latest act
first (`PastAct`). A wait that nobody gives up is waited out in full (`Orderly`). So a watch is
patient (`Patient`) as long as no wait is given up; otherwise it can happen that a stream is read
that is over, and its end is counted once more.
-/

namespace WafControl

/-- What a watch does with its streams, and that whoever reads it stops waiting for it. -/
inductive WatchAct (α : Type) where
  | read (p : Polled α)
  | connect
  | interrupted
  deriving DecidableEq, Repr

structure PastAct (α : Type) where
  act : WatchAct α
  time : Nat
  deriving DecidableEq, Repr

variable {α : Type}

/-- The delay that a failure calls for. -/
def WatchAct.delay? : WatchAct α → Option Duration
  | read (.failed d) => some d
  | read (.ended d) => some d
  | _ => none

namespace PastAct

/-- The failing reads since the last event. -/
def attempted : List (PastAct α) → Nat
  | [] => 0
  | x :: earlier =>
    match x.act with
    | .read (.event _) => 0
    | .read (.failed _) => attempted earlier + 1
    | .read (.ended _) => attempted earlier + 1
    | _ => attempted earlier

/-- Whether the current stream has ended. -/
def hasEnded : List (PastAct α) → Bool
  | [] => false
  | x :: earlier =>
    match x.act with
    | .read (.ended _) => true
    | .read _ => false
    | .connect => false
    | .interrupted => hasEnded earlier

/-- The failures since the last event. The end of a stream is one failure, however often it is
read. -/
def failures : List (PastAct α) → Nat
  | [] => 0
  | x :: earlier =>
    match x.act with
    | .read (.event _) => 0
    | .read (.failed _) => failures earlier + 1
    | .read (.ended _) => if hasEnded earlier then failures earlier else failures earlier + 1
    | _ => failures earlier

/-- How an act fits those before it: unless it is an interruption, the delay of a failure just
before has passed, and after an end a stream is connected. -/
structure Fits (policy : Backoff) (x : PastAct α) (earlier : List (PastAct α)) : Prop where
  late : ∀ y ∈ earlier, y.time ≤ x.time
  waited : ∀ y d, earlier.head? = some y → y.act.delay? = some d → x.act ≠ .interrupted →
    y.time + d.sleepMillis ≤ x.time ∧ (y.act = .read (.ended d) → x.act = .connect)
  delay : ∀ d, x.act.delay? = some d →
    d = policy.delay (min (attempted earlier) Retry.maxAttempts)

def Orderly (policy : Backoff) : List (PastAct α) → Prop
  | [] => True
  | x :: earlier => x.Fits policy earlier ∧ Orderly policy earlier

end PastAct

namespace Watch

open PastAct

theorem receive_of_pause {w : Watch α} {p : Pause} (h : w.pause = some p) (now : Nat) :
    w.receive now = if p.till ≤ now then w.wake.receive now else (none, w) := by
  rw [receive]
  split
  · rename_i hp
    cases h.symm.trans hp
    rfl
  · rename_i hp
    cases h.symm.trans hp

theorem receive_of_ready {w : Watch α} (h : w.pause = none) (now : Nat) :
    w.receive now =
      match w.poll with
      | (.event e, w') => (some e, w')
      | (.failed d, w') =>
        if d.sleepMillis = 0 then w'.receive now
        else (none, { w' with pause := some ⟨now + d.sleepMillis, false⟩ })
      | (.ended d, w') =>
        if d.sleepMillis = 0 then w'.reconnect.receive now
        else (none, { w' with pause := some ⟨now + d.sleepMillis, true⟩ })
      | (.silent, w') => (none, w') := by
  rw [receive]
  split
  · rename_i hp
    cases h.symm.trans hp
  · split <;> rename_i hpoll <;> rw [hpoll]

/-- What is done once a pause is over. -/
def woken (p : Pause) (now : Nat) : List (PastAct α) :=
  if p.reconnect then [⟨.connect, now⟩] else []

/-- What `receive` does, together with the acts that are done, the last one first. -/
def observe (w : Watch α) (now : Nat) : List (PastAct α) × Option (WatchEvent α) × Watch α :=
  match _hp : w.pause with
  | some p =>
    if p.till ≤ now then (w.wake.observe now).map (· ++ woken p now) id else ([], none, w)
  | none =>
    match _h : w.poll with
    | (.event e, w') => ([⟨.read (.event e), now⟩], some e, w')
    | (.failed d, w') =>
      if d.sleepMillis = 0 then
        (w'.observe now).map (· ++ [⟨.read (.failed d), now⟩]) id
      else
        ([⟨.read (.failed d), now⟩], none,
          { w' with pause := some ⟨now + d.sleepMillis, false⟩ })
    | (.ended d, w') =>
      if d.sleepMillis = 0 then
        (w'.reconnect.observe now).map (· ++ [⟨.connect, now⟩, ⟨.read (.ended d), now⟩]) id
      else
        ([⟨.read (.ended d), now⟩], none,
          { w' with pause := some ⟨now + d.sleepMillis, true⟩ })
    | (.silent, w') => ([⟨.read .silent, now⟩], none, w')
termination_by w.budget
decreasing_by
  · exact w.budget_wake_lt (by simp [_hp])
  · have := size_poll_failed _h
    unfold budget
    split <;> split <;> omega
  · have := size_reconnect_poll_ended _h
    unfold budget
    split <;> split <;> omega

theorem observe_snd (w : Watch α) (now : Nat) : (w.observe now).2 = w.receive now := by
  fun_induction observe w now with
  | case1 w p hp hle ih =>
      rw [receive_of_pause hp, if_pos hle]
      exact ih
  | case2 w p hp hlt => rw [receive_of_pause hp, if_neg hlt]
  | case3 w hp e w' hpoll => rw [receive_of_ready hp, hpoll]
  | case4 w hp d w' hpoll hz ih =>
      rw [receive_of_ready hp, hpoll]
      exact ih.trans (if_pos hz).symm
  | case5 w hp d w' hpoll hz =>
      rw [receive_of_ready hp, hpoll]
      exact (if_neg hz).symm
  | case6 w hp d w' hpoll hz ih =>
      rw [receive_of_ready hp, hpoll]
      exact ih.trans (if_pos hz).symm
  | case7 w hp d w' hpoll hz =>
      rw [receive_of_ready hp, hpoll]
      exact (if_neg hz).symm
  | case8 w hp w' hpoll => rw [receive_of_ready hp, hpoll]

/-! ### What is waited for -/

theorem poll_event {w w' : Watch α} {e : WatchEvent α} (h : w.poll = (.event e, w')) :
    w'.retry = w.retry.reset ∧ w'.pause = w.pause := by
  unfold poll at h
  split at h
  · cases h
    exact ⟨rfl, rfl⟩
  · cases h
  · cases h
  · split at h <;> cases h

theorem poll_of_delay {w w' : Watch α} {p : Polled α} {d : Duration} (h : w.poll = (p, w'))
    (hd : (WatchAct.read p).delay? = some d) :
    d = w.retry.delay ∧ w'.retry = w.retry.advance ∧ w'.pause = w.pause := by
  unfold poll at h
  split at h
  · cases h
    cases hd
  · cases h
    cases hd
    exact ⟨rfl, rfl, rfl⟩
  · cases h
    cases hd
  · split at h
    · cases h
      cases hd
      exact ⟨rfl, rfl, rfl⟩
    · cases h
      cases hd

theorem poll_silent {w w' : Watch α} (h : w.poll = (.silent, w')) : w' = w := by
  unfold poll at h
  split at h
  · cases h
  · cases h
  · cases h
    rfl
  · split at h
    · cases h
    · cases h
      rfl

theorem retry_reconnect (w : Watch α) : w.reconnect.retry = w.retry := by
  unfold reconnect
  split <;> rfl

theorem pause_reconnect (w : Watch α) : w.reconnect.pause = w.pause := by
  unfold reconnect
  split <;> rfl

theorem retry_wake (w : Watch α) : w.wake.retry = w.retry := by
  unfold wake
  split
  · rfl
  · split
    · exact w.retry_reconnect
    · rfl

/-- A watch that goes on as it should after a failure with this delay: it pauses until the delay has
passed, or that is so already and there is nothing to connect. -/
def Awaits (w : Watch α) (now : Nat) (y : PastAct α) (d : Duration) : Prop :=
  match w.pause with
  | none => y.time + d.sleepMillis ≤ now ∧ y.act ≠ .read (.ended d)
  | some p => y.time + d.sleepMillis ≤ p.till ∧ (y.act = .read (.ended d) → p.reconnect = true)

/-- What holds of a watch and its log at any time. -/
structure Sound (policy : Backoff) (log : List (PastAct α)) (w : Watch α) (now : Nat) :
    Prop where
  orderly : Orderly policy log
  past : ∀ x ∈ log, x.time ≤ now
  retry : w.retry = ⟨policy, min (attempted log) Retry.maxAttempts⟩
  awaits : ∀ y d, log.head? = some y → y.act.delay? = some d → w.Awaits now y d

namespace Sound

variable {policy : Backoff} {log : List (PastAct α)} {w w' : Watch α} {now : Nat}

theorem of_eq (h : Sound policy log w now) (hr : w'.retry = w.retry) (hp : w'.pause = w.pause) :
    Sound policy log w' now where
  orderly := h.orderly
  past := h.past
  retry := hr.trans h.retry
  awaits := by
    simp only [Awaits, hp]
    exact h.awaits

theorem pass (h : Sound policy log w now) (ms : Nat) : Sound policy log w (now + ms) where
  orderly := h.orderly
  past := fun x hx => Nat.le_add_right_of_le (h.past x hx)
  retry := h.retry
  awaits := by
    intro y d hy hd
    have ha := h.awaits y d hy hd
    unfold Awaits at ha ⊢
    cases hp : w.pause with
    | none =>
        rw [hp] at ha
        exact ⟨Nat.le_add_right_of_le ha.1, ha.2⟩
    | some p =>
        rw [hp] at ha
        exact ha

/-- An act that fits is put on the log. -/
theorem cons (h : Sound policy log w now) {act : WatchAct α}
    (fits : Fits policy ⟨act, now⟩ log)
    (hr : w'.retry = ⟨policy, min (attempted (⟨act, now⟩ :: log)) Retry.maxAttempts⟩)
    (ha : ∀ d, act.delay? = some d → w'.Awaits now ⟨act, now⟩ d) :
    Sound policy (⟨act, now⟩ :: log) w' now where
  orderly := ⟨fits, h.orderly⟩
  past := List.forall_mem_cons.2 ⟨Nat.le_refl now, h.past⟩
  retry := hr
  awaits := by
    rintro y d ⟨⟩ hd
    exact ha d hd

theorem interrupt (h : Sound policy log w now) :
    Sound policy (⟨.interrupted, now⟩ :: log) w.interrupt now :=
  h.cons ⟨h.past, fun _ _ _ _ hne => absurd rfl hne, nofun⟩ h.retry nofun

/-- After its pause, a watch may read or has just connected. -/
theorem wake (h : Sound policy log w now) {p : Pause} (hp : w.pause = some p)
    (hle : p.till ≤ now) : Sound policy (woken p now ++ log) w.wake now := by
  have hawaits : ∀ y d, log.head? = some y → y.act.delay? = some d →
      y.time + d.sleepMillis ≤ now ∧ (y.act = .read (.ended d) → p.reconnect = true) := by
    intro y d hy hd
    have ha := h.awaits y d hy hd
    simp only [Awaits, hp] at ha
    exact ⟨Nat.le_trans ha.1 hle, ha.2⟩
  simp only [woken, Watch.wake, hp]
  cases hc : p.reconnect with
  | true =>
      refine h.cons ⟨h.past, fun y d hy hd _ => ?_, nofun⟩ ?_ nofun
      · exact ⟨(hawaits y d hy hd).1, fun _ => rfl⟩
      · exact w.retry_reconnect.trans h.retry
  | false =>
      refine ⟨h.orderly, h.past, h.retry, fun y d hy hd => ?_⟩
      obtain ⟨hwaited, hended⟩ := hawaits y d hy hd
      exact ⟨hwaited, fun heq => by simp [hc] at hended; exact hended heq⟩

theorem retry_poll (h : Sound policy log w now) {p : Polled α} (hpoll : w.poll = (p, w')) :
    w'.retry = ⟨policy, min (attempted (⟨.read p, now⟩ :: log)) Retry.maxAttempts⟩ := by
  have hadvance : w.retry.advance =
      ⟨policy, min (attempted log + 1) Retry.maxAttempts⟩ := by
    rw [h.retry, Retry.advance]
    congr 1
    simp only
    omega
  cases p with
  | event e =>
      rw [(poll_event hpoll).1, h.retry]
      simp [Retry.reset, attempted]
  | failed d => exact (poll_of_delay hpoll rfl).2.1.trans hadvance
  | ended d => exact (poll_of_delay hpoll rfl).2.1.trans hadvance
  | silent =>
      rw [poll_silent hpoll, h.retry]
      rfl

/-- A watch that does not pause may read. -/
theorem read (h : Sound policy log w now) (hp : w.pause = none) {p : Polled α}
    {w₁ : Watch α} (hpoll : w.poll = (p, w₁)) (hr : w'.retry = w₁.retry)
    (ha : ∀ d, (WatchAct.read p).delay? = some d → w'.Awaits now ⟨.read p, now⟩ d) :
    Sound policy (⟨.read p, now⟩ :: log) w' now := by
  refine h.cons ⟨h.past, fun y d hy hd _ => ?_, fun d hd => ?_⟩ (hr.trans (h.retry_poll hpoll)) ha
  · have hawaits := h.awaits y d hy hd
    simp only [Awaits, hp] at hawaits
    exact ⟨hawaits.1, fun hended => absurd hended hawaits.2⟩
  · rw [(poll_of_delay hpoll hd).1, h.retry]
    rfl

/-- After a failure, a watch pauses for the delay. -/
theorem fail (h : Sound policy log w now) (hp : w.pause = none) {p : Polled α} {d : Duration}
    (hpoll : w.poll = (p, w')) (hd : (WatchAct.read p).delay? = some d) {c : Bool}
    (hc : p = .ended d → c = true) :
    Sound policy (⟨.read p, now⟩ :: log)
      { w' with pause := some ⟨now + d.sleepMillis, c⟩ } now := by
  refine h.read hp hpoll rfl fun d' hd' => ?_
  cases hd.symm.trans hd'
  exact ⟨Nat.le_refl _, fun hended => hc (WatchAct.read.inj hended)⟩

theorem observe (h : Sound policy log w now) :
    Sound policy ((w.observe now).1 ++ log) (w.observe now).2.2 now := by
  fun_induction Watch.observe w now generalizing log with
  | case1 w p hp hle ih =>
      simp only [Prod.map, id, List.append_assoc]
      exact ih (h.wake hp hle)
  | case2 w p hp hlt => exact h
  | case3 w hp e w' hpoll => exact h.read hp hpoll rfl nofun
  | case4 w hp d w' hpoll hz ih =>
      -- a wait that takes no time is over at once
      have hpause := (poll_of_delay hpoll rfl).2.2.trans hp
      have hwoken := (h.fail hp hpoll rfl (c := false) nofun).wake rfl (by simp [hz])
      simp only [Prod.map, id, List.append_assoc]
      exact ih (hwoken.of_eq rfl hpause)
  | case5 w hp d w' hpoll hz => exact h.fail hp hpoll rfl nofun
  | case6 w hp d w' hpoll hz ih =>
      have hpause := (poll_of_delay hpoll rfl).2.2.trans hp
      have hwoken := (h.fail hp hpoll rfl (c := true) fun _ => rfl).wake rfl (by simp [hz])
      simp only [Prod.map, id, List.append_assoc]
      exact ih (hwoken.of_eq (by rw [retry_wake, retry_reconnect])
        (w'.pause_reconnect.trans hpause))
  | case7 w hp d w' hpoll hz => exact h.fail hp hpoll rfl fun _ => rfl
  | case8 w hp w' hpoll => exact h.read hp hpoll rfl nofun

end Sound

end Watch

/-! ### Watches in time -/

/-- A watch in time, with what it did and had done to it. -/
structure ObservedWatch (α : Type) where
  watch : Watch α
  now : Nat := 0
  log : List (PastAct α) := []
  deriving DecidableEq, Repr

namespace ObservedWatch

open PastAct

/-- What happens to a watch. Its streams may change at any time: more comes over a connection, or it
ends. -/
inductive Move (α : Type) where
  | pass (ms : Nat)
  | change (stream : EventStream α) (later : List (EventStream α))
  | receive
  | interrupt

def start (policy : Backoff) (streams : List (EventStream α)) : ObservedWatch α :=
  ⟨.start policy streams, 0, []⟩

def step (s : ObservedWatch α) : Move α → ObservedWatch α
  | .pass ms => { s with now := s.now + ms }
  | .change stream later => { s with watch := { s.watch with stream, later } }
  | .receive =>
    let observed := s.watch.observe s.now
    { s with watch := observed.2.2, log := observed.1 ++ s.log }
  | .interrupt => { s with watch := s.watch.interrupt, log := ⟨.interrupted, s.now⟩ :: s.log }

def run (s : ObservedWatch α) (moves : List (Move α)) : ObservedWatch α := moves.foldl step s

/-- A watch that waits after every failure, however often it is interrupted: nothing is read or
connected before the delay of the failure has passed, which is that of the failures so far; all of
them are counted, once; and a stream that has ended is not read any more. -/
structure Patient (policy : Backoff) (s : ObservedWatch α) : Prop where
  full : ∀ later y earlier d, s.log = later ++ y :: earlier → y.act.delay? = some d →
    d = policy.delay (min (failures earlier) Retry.maxAttempts) ∧
      ∀ x ∈ later, x.act ≠ .interrupted → y.time + d.sleepMillis ≤ x.time
  once : s.watch.retry.attempts = min (failures s.log) Retry.maxAttempts
  unread : ∀ later x earlier, s.log = later ++ x :: earlier → hasEnded earlier = true →
    ∀ p, x.act ≠ .read p

variable {policy : Backoff} {s : ObservedWatch α}

theorem sound_start (policy : Backoff) (streams : List (EventStream α)) :
    (start policy streams).watch.Sound policy (start policy streams).log 0 := by
  refine ⟨trivial, nofun, ?_, nofun⟩
  cases streams <;> simp [start, Watch.start, Backoff.retry, attempted]

theorem sound_step (h : s.watch.Sound policy s.log s.now) (move : Move α) :
    (s.step move).watch.Sound policy (s.step move).log (s.step move).now := by
  cases move with
  | pass ms => exact h.pass ms
  | change stream later => exact h.of_eq rfl rfl
  | receive => exact h.observe
  | interrupt => exact h.interrupt

theorem sound_run (h : s.watch.Sound policy s.log s.now) (moves : List (Move α)) :
    (s.run moves).watch.Sound policy (s.run moves).log (s.run moves).now := by
  induction moves generalizing s with
  | nil => exact h
  | cons move moves ih => exact ih (sound_step h move)

end ObservedWatch

/-! ### Waits that nobody gives up -/

namespace PastAct

variable {policy : Backoff} {log later earlier : List (PastAct α)} {x y : PastAct α}

/-- Whether no interruption comes right after a failure. -/
def Uncut : List (PastAct α) → Prop
  | [] => True
  | x :: earlier => (x.act = .interrupted → ∀ y, earlier.head? = some y → y.act.delay? = none) ∧
      Uncut earlier

theorem Orderly.of_append (h : Orderly policy (later ++ log)) : Orderly policy log := by
  induction later with
  | nil => exact h
  | cons x later ih => exact ih h.2

theorem Uncut.of_append (h : Uncut (later ++ log)) : Uncut log := by
  induction later with
  | nil => exact h
  | cons x later ih => exact ih h.2

/-- If nothing interrupts the wait for a failure, its delay passes before anything else. -/
theorem Orderly.waited_in_full (h : Orderly policy (later ++ y :: earlier)) {d : Duration}
    (hd : y.act.delay? = some d) (hnext : ∀ x, later.getLast? = some x → x.act ≠ .interrupted) :
    ∀ x ∈ later, y.time + d.sleepMillis ≤ x.time := by
  induction later with
  | nil => nofun
  | cons x later ih =>
      cases later with
      | nil =>
          intro x' hx'
          rw [List.mem_singleton.1 hx']
          exact (h.1.waited y d rfl hd (hnext x rfl)).1
      | cons z later =>
          have hrest := ih h.2 fun x' hx' => hnext x' (by rwa [List.getLast?_cons_cons])
          refine List.forall_mem_cons.2 ⟨?_, hrest⟩
          exact Nat.le_trans (hrest z List.mem_cons_self) (h.1.late z List.mem_cons_self)

theorem Uncut.head?_of_hasEnded (h : Uncut log) (hover : hasEnded log = true) :
    ∃ y d, log.head? = some y ∧ y.act = .read (.ended d) := by
  induction log with
  | nil => cases hover
  | cons x log ih =>
      cases hx : x.act with
      | connect => simp [hasEnded, hx] at hover
      | interrupted =>
          -- the end before it would have been waited for
          rw [hasEnded, hx] at hover
          obtain ⟨y, d, hy, hend⟩ := ih h.2 hover
          have hnone := h.1 hx y hy
          rw [hend] at hnone
          cases hnone
      | read p =>
          cases p with
          | ended d => exact ⟨x, d, rfl, hx⟩
          | event | failed | silent => simp [hasEnded, hx] at hover

theorem Uncut.of_getLast? (h : Uncut (later ++ y :: earlier)) (hd : y.act.delay? ≠ none)
    (hx : later.getLast? = some x) : x.act ≠ .interrupted := by
  obtain ⟨before, rfl⟩ := List.getLast?_eq_some_iff.1 hx
  rw [List.append_assoc] at h
  exact fun hcut => hd (h.of_append.1 hcut y rfl)

/-- A stream that has ended is not read, as long as its end is waited for. -/
theorem Orderly.unread (h : Orderly policy (x :: earlier)) (hcut : Uncut earlier)
    (hover : hasEnded earlier = true) (p : Polled α) : x.act ≠ .read p := by
  intro hx
  obtain ⟨y, d, hy, hend⟩ := hcut.head?_of_hasEnded hover
  have hconnect := (h.1.waited y d hy (by rw [hend]; rfl) (by rw [hx]; nofun)).2 hend
  cases hx.symm.trans hconnect

theorem Orderly.attempted_eq (h : Orderly policy log) (hcut : Uncut log) :
    attempted log = failures log := by
  induction log with
  | nil => rfl
  | cons x log ih =>
      have hrest := ih h.2 hcut.2
      cases hx : x.act with
      | connect | interrupted => simpa [attempted, failures, hx] using hrest
      | read p =>
          cases p with
          | event e => simp [attempted, failures, hx]
          | failed d | silent => simpa [attempted, failures, hx] using hrest
          | ended d =>
              have hover : hasEnded log = false :=
                Bool.eq_false_iff.2 fun hover => h.unread hcut.2 hover _ hx
              simpa [attempted, failures, hx, hover] using hrest

end PastAct

namespace ObservedWatch

open PastAct

/-- Whatever the streams do and whenever a watch is read and interrupted: it is patient if no wait
after a failure is given up. -/
theorem patient_of_uncut (policy : Backoff) (streams : List (EventStream α))
    (moves : List (Move α)) (hcut : Uncut ((start policy streams).run moves).log) :
    ((start policy streams).run moves).Patient policy := by
  obtain ⟨horderly, -, hretry, -⟩ := sound_run (sound_start policy streams) moves
  constructor
  · intro later y earlier d hlog hd
    rw [hlog] at horderly hcut
    obtain ⟨hfits, hearlier⟩ := horderly.of_append
    constructor
    · rw [hfits.delay d hd, hearlier.attempted_eq hcut.of_append.2]
    · intro x hx _
      refine horderly.waited_in_full hd (fun z hz => ?_) x hx
      exact hcut.of_getLast? (by simp [hd]) hz
  · rw [hretry, horderly.attempted_eq hcut]
  · intro later x earlier hlog hover
    rw [hlog] at horderly hcut
    exact horderly.of_append.unread hcut.of_append.2 hover

def everySecond : Backoff := .fixed (Duration.ofSeconds 1)

/-- A stream fails, yields an event and ends. Each wait is over before the watch is interrupted. -/
def patientWatch : ObservedWatch Unit :=
  (start everySecond [{ items := [.failure, .event .initDone] }]).run
    [.receive, .pass 400, .receive, .pass 600, .receive, .interrupt, .receive, .pass 1000, .receive,
      .interrupt, .receive]

theorem patient_patientWatch :
    patientWatch.log = [⟨.read .silent, 2000⟩, ⟨.interrupted, 2000⟩, ⟨.read .silent, 2000⟩,
        ⟨.connect, 2000⟩, ⟨.read (.ended (Duration.ofSeconds 1)), 1000⟩, ⟨.interrupted, 1000⟩,
        ⟨.read (.event .initDone), 1000⟩, ⟨.read (.failed (Duration.ofSeconds 1)), 0⟩] ∧
      Uncut patientWatch.log ∧ patientWatch.Patient everySecond := by
  have hlog : patientWatch.log = [⟨.read .silent, 2000⟩, ⟨.interrupted, 2000⟩,
      ⟨.read .silent, 2000⟩, ⟨.connect, 2000⟩, ⟨.read (.ended (Duration.ofSeconds 1)), 1000⟩,
      ⟨.interrupted, 1000⟩, ⟨.read (.event .initDone), 1000⟩,
      ⟨.read (.failed (Duration.ofSeconds 1)), 0⟩] := by
    decide +kernel
  have hcut : Uncut patientWatch.log := by
    rw [hlog]
    simp [Uncut, WatchAct.delay?]
  exact ⟨hlog, hcut, patient_of_uncut _ _ _ hcut⟩

/-- A wait that is given up is forgotten: a stream that has just ended is read again at once, and
its end is counted twice. -/
theorem interrupted_not_patient :
    ((start everySecond [({} : EventStream Unit)]).run [.receive, .interrupt, .receive]).log =
        [⟨.read (.ended (Duration.ofSeconds 1)), 0⟩, ⟨.interrupted, 0⟩,
          ⟨.read (.ended (Duration.ofSeconds 1)), 0⟩] ∧
      ¬ ∀ (policy : Backoff) (streams : List (EventStream Unit)) (moves : List (Move Unit)),
        ((start policy streams).run moves).Patient policy := by
  have hlog : ((start everySecond [({} : EventStream Unit)]).run
      [.receive, .interrupt, .receive]).log = [⟨.read (.ended (Duration.ofSeconds 1)), 0⟩,
        ⟨.interrupted, 0⟩, ⟨.read (.ended (Duration.ofSeconds 1)), 0⟩] := by
    decide +kernel
  refine ⟨hlog, fun hpatient => ?_⟩
  exact (hpatient _ _ _).unread [] _ _ hlog rfl _ rfl

end ObservedWatch

/-! ### Informers -/

namespace InformerLoop

/-- A pass of a loop reads its watch, and interrupts it if it takes up anything else. -/
theorem watch_step (l : InformerLoop) (now : Nat) (feed : HostFeed) :
    (l.step now feed).2.watch = (l.watch.receive now).2 ∨
      (l.step now feed).2.watch = (l.watch.receive now).2.interrupt := by
  unfold step
  simp only
  cases (l.watch.receive now).1 with
  | some e => exact Or.inl rfl
  | none =>
      simp only
      split
      · exact Or.inr rfl
      · split
        · exact Or.inr rfl
        · split
          · exact Or.inr rfl
          · exact Or.inl rfl

/-- So what loops do to their watches are moves. -/
theorem exists_moves (l : InformerLoop) (feed : HostFeed) {s : ObservedWatch EndpointSlice}
    (h : s.watch = l.watch) :
    ∃ moves, (moves = [.receive] ∨ moves = [.receive, .interrupt]) ∧
      (s.run moves).watch = (l.step s.now feed).2.watch := by
  have hreceived : (s.step .receive).watch = (l.watch.receive s.now).2 := by
    rw [← h, ← s.watch.observe_snd]
    rfl
  rcases l.watch_step s.now feed with hstep | hstep
  · exact ⟨_, Or.inl rfl, hreceived.trans hstep.symm⟩
  · exact ⟨_, Or.inr rfl, (congrArg Watch.interrupt hreceived).trans hstep.symm⟩

end InformerLoop

end WafControl
