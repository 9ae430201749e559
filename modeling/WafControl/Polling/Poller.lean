import WafControl.Data.Outcome
import WafControl.Policy.Store
import WafControl.Time.Ticker

/-!
# Polling for changed protections

A poller lists the protections of a store whenever its version token has moved. A poll has two
steps: it reads the token, and if the token differs from the last one, it lists. The token is kept
only once the listing has succeeded, so that a failed listing is tried again by the next poll, and
a change that falls between the two steps is seen by the next poll at the latest.

`PollLoop` polls periodically. Its state is a ticker and, while a token is being read, the time of
the answer; `fire` performs what is due at a given time.
-/

namespace WafControl

/-- A poller: what it lists, and the token of its last listing. -/
structure Poller where
  filter : Filter
  lastSeen : Option String := none
  deriving DecidableEq, Repr

inductive PollResult where
  | failed (message : String)
  | unchanged
  | changed (ps : List Protection)
  deriving DecidableEq, Repr

namespace Poller

/-- Whether a token calls for a listing. -/
def moved (p : Poller) (token : String) : Bool := p.lastSeen != some token

/-- What follows a listing: its token is kept if it succeeded. -/
def listed (p : Poller) (token : String) : Except String (List Protection) → PollResult × Poller
  | .error e => (.failed e, p)
  | .ok ps => (.changed ps, { p with lastSeen := some token })

/-- What follows the answer to the question for the token: an error, nothing, or a listing. -/
def afterVersion (p : Poller) (s : Store) : Except String String → PollResult × Poller × Store
  | .error e => (.failed e, p, s)
  | .ok token =>
    if p.moved token then
      let (answer, s) := s.list p.filter
      let (result, p) := p.listed token answer
      (result, p, s)
    else (.unchanged, p, s)

/-- A whole poll at one moment. -/
def poll (p : Poller) (s : Store) : PollResult × Poller × Store :=
  let s := s.askVersion
  p.afterVersion s s.answerVersion

end Poller

/-- A poller that polls on every tick. While a token is being read, `answerAt` is the time of the
answer. -/
structure PollLoop where
  poller : Poller
  ticker : Ticker
  answerAt : Option Nat := none
  deriving DecidableEq, Repr

namespace PollLoop

/-- A loop whose first tick is at the time `first`. It fails where its ticker does. -/
def start (filter : Filter) (first interval : Nat) : Except TickerFault PollLoop :=
  (Ticker.startAt first interval).map fun ticker => { poller := { filter }, ticker }

theorem start_of_pos (filter : Filter) (first : Nat) {interval : Nat} (h : 0 < interval) :
    start filter first interval =
      .ok { poller := { filter }, ticker := ⟨interval, first, h⟩ } := by
  rw [start, Ticker.startAt_of_pos first h]
  rfl

theorem start_zero (filter : Filter) (first : Nat) : start filter first 0 = .error .zeroPeriod := by
  rw [start, Ticker.startAt_zero]
  rfl

theorem exists_ticker_of_start {filter : Filter} {first interval : Nat} {l : PollLoop}
    (h : start filter first interval = .ok l) : ∃ ticker, l = { poller := { filter }, ticker } := by
  obtain ⟨ticker, -, rfl⟩ := exists_ok_of_map h
  exact ⟨ticker, rfl⟩

/-- The time of what the loop does next. -/
def nextTime (l : PollLoop) : Nat := l.answerAt.getD l.ticker.deadline

/-- Takes the answer of a token read. -/
def answer (l : PollLoop) (s : Store) : PollResult × PollLoop × Store :=
  let (result, poller, s) := l.poller.afterVersion s s.answerVersion
  (result, { l with poller, answerAt := none }, s)

/-- Takes a tick at time `now`: the token is asked for, and answered at once by a store without
latency. -/
def tick (l : PollLoop) (s : Store) (now : Nat) : Option PollResult × PollLoop × Store :=
  let l := { l with ticker := l.ticker.tick now }
  let s := s.askVersion
  if s.latency = 0 then
    let (result, l, s) := l.answer s
    (some result, l, s)
  else (none, { l with answerAt := some (now + s.latency) }, s)

/-- Does what is due at time `now`: takes the answer that is awaited, or else a tick. -/
def fire (l : PollLoop) (s : Store) (now : Nat) : Option PollResult × PollLoop × Store :=
  match l.answerAt with
  | some _ =>
    let (result, l, s) := l.answer s
    (some result, l, s)
  | none => l.tick s now

/-- What is left to do before a time: it becomes less with everything the loop does. -/
def pending (l : PollLoop) (till : Nat) : Nat :=
  2 * (till - l.ticker.deadline) + (if l.answerAt.isSome then 1 else 0)

theorem pending_fire_lt (l : PollLoop) (s : Store) (now till : Nat)
    (h : l.nextTime < till) : (l.fire s now).2.1.pending till < l.pending till := by
  unfold fire
  cases hr : l.answerAt with
  | some t =>
      simp only [answer, pending, hr]
      simp
  | none =>
      have hd : l.ticker.deadline < till := by simpa [nextTime, hr] using h
      have ht := l.ticker.deadline_lt_tick now
      simp only [tick]
      split <;> simp only [answer, pending, hr] <;> simp <;> omega

/-- Runs the loop from the time `now` on; what is due at the time `till` or later is left. The
results come with their times, in order. -/
def run (l : PollLoop) (s : Store) (now till : Nat) : List (Nat × PollResult) × PollLoop × Store :=
  if _h : l.nextTime < till then
    let time := max now l.nextTime
    let step := l.fire s time
    let rest := step.2.1.run step.2.2 time till
    (step.1.toList.map (fun r => (time, r)) ++ rest.1, rest.2)
  else ([], l, s)
termination_by l.pending till
decreasing_by exact pending_fire_lt l s _ till (by assumption)

/-- What everything that the loop does keeps, a run keeps, together with what is made of its
results. -/
theorem run_induction {β : Type} {f : β → PollResult → β} {P : PollLoop → Store → β → Prop}
    (hfire : ∀ l s b now, l.nextTime ≤ now → P l s b →
      P (l.fire s now).2.1 (l.fire s now).2.2 ((l.fire s now).1.toList.foldl f b))
    (l : PollLoop) (s : Store) (now till : Nat) (b : β) (h : P l s b) :
    P (l.run s now till).2.1 (l.run s now till).2.2
      ((l.run s now till).1.foldl (fun b r => f b r.2) b) := by
  fun_induction PollLoop.run l s now till generalizing b with
  | case1 l s now hlt time step =>
      rename_i rest ih
      have hfold : (step.1.toList.map (fun r => (time, r)) ++ rest.1).foldl
          (fun b r => f b r.2) b =
            rest.1.foldl (fun b r => f b r.2) (step.1.toList.foldl f b) := by
        rw [List.foldl_append, List.foldl_map]
      rw [hfold]
      exact ih _ (hfire l s b time (Nat.le_max_right now l.nextTime) h)
  | case2 l s now hlt => exact h

end PollLoop

end WafControl
