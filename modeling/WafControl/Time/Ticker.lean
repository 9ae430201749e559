/-!
# Periodic ticks

A ticker fires at its deadline, or as soon as it is asked after it. A tick that is taken more than
`tolerance` milliseconds late moves the following deadlines: the next one is then a whole period
after the late tick. Otherwise the next deadline is one period after the last.

Times are milliseconds since the start. The period is positive; to start a ticker with a period of
zero is a fault.
-/

namespace WafControl

/-- Why a ticker cannot be started. -/
inductive TickerFault where
  | zeroPeriod
  deriving DecidableEq, Repr

def TickerFault.message : TickerFault → String
  | .zeroPeriod => "`period` must be non-zero."

/-- A source of ticks: the next deadline and the distance between deadlines. -/
structure Ticker where
  period : Nat
  deadline : Nat
  period_pos : 0 < period
  deriving DecidableEq, Repr

namespace Ticker

/-- A tick later than this many milliseconds counts as missed. -/
def tolerance : Nat := 5

/-- A ticker whose first deadline is `start`. -/
def startAt (start period : Nat) : Except TickerFault Ticker :=
  if h : 0 < period then .ok ⟨period, start, h⟩ else .error .zeroPeriod

theorem startAt_of_pos (start : Nat) {period : Nat} (h : 0 < period) :
    startAt start period = .ok ⟨period, start, h⟩ := dif_pos h

theorem startAt_zero (start : Nat) : startAt start 0 = .error .zeroPeriod := rfl

def due (t : Ticker) (now : Nat) : Bool := decide (t.deadline ≤ now)

/-- The ticker after a tick taken at time `now`. -/
def tick (t : Ticker) (now : Nat) : Ticker :=
  if t.deadline + tolerance < now then { t with deadline := now + t.period }
  else { t with deadline := t.deadline + t.period }

/-- Each tick moves the deadline forward. -/
theorem deadline_lt_tick (t : Ticker) (now : Nat) : t.deadline < (t.tick now).deadline := by
  have := t.period_pos
  unfold tick
  split <;> simp <;> omega

end Ticker

end WafControl
