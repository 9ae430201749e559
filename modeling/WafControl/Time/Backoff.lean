import WafControl.Time.Duration

/-!
# Backoff policies

A policy gives the delay before each retry: always the same one, or one that doubles with every
attempt until it reaches a greatest delay. A `Retry` counts the attempts made under a policy since
its last reset. Attempts are unbounded; whoever retries decides when to give up.

`Backoff.nanos_delay_exponential` states the doubling rule. The factor stops growing with the last
power of two that fits 32 bits.
-/

namespace WafControl

/-- How long to wait before a retry. -/
inductive Backoff where
  /-- The same delay before every retry. -/
  | fixed (delay : Duration)
  /-- Doubles from `least` on each attempt, and is never more than `greatest`. -/
  | exponential (least greatest : Duration)
  deriving DecidableEq, Repr

namespace Backoff

/-- The greatest exponent of the doubling: its power of two still fits 32 bits. -/
def maxDoublings : Nat := 31

/-- The delay before retry number `attempt`, counted from zero. A product that is no duration
counts as `greatest`. -/
def delay : Backoff → Nat → Duration
  | fixed d, _ => d
  | exponential least greatest, attempt =>
    match least.mul? (Nat.pow 2 (min attempt maxDoublings)) with
    | some d => min d greatest
    | none => greatest

/-- Half a second doubling up to half a minute. -/
def standard : Backoff :=
  exponential (Duration.ofMillis 500) (Duration.ofSeconds 30)

instance : Inhabited Backoff := ⟨standard⟩

theorem delay_fixed (d : Duration) (n : Nat) : (fixed d).delay n = d := rfl

/-- The exponential delay in nanoseconds: the exact product with the power of two, or `greatest`
if that is smaller. -/
theorem nanos_delay_exponential (least greatest : Duration) (n : Nat) :
    ((exponential least greatest).delay n).nanos =
      min (least.nanos * Nat.pow 2 (min n maxDoublings)) greatest.nanos := by
  simp only [delay, Duration.mul?, Duration.ofNanos?]
  split
  · rename_i d h
    split at h
    · cases h
      exact Duration.nanos_min _ _
    · cases h
  · rename_i h
    split at h
    · cases h
    · rename_i hlt
      have := greatest.nanos_lt
      omega

end Backoff

/-- The attempts made under a policy since the last reset. -/
structure Retry where
  policy : Backoff
  attempts : Nat := 0
  deriving DecidableEq, Repr

namespace Retry

/-- The number of attempts at which counting stops. -/
def maxAttempts : Nat := UInt32.size - 1

def delay (r : Retry) : Duration := r.policy.delay r.attempts

def advance (r : Retry) : Retry := { r with attempts := min (r.attempts + 1) maxAttempts }

/-- The next delay, with the attempt recorded. -/
def next (r : Retry) : Duration × Retry := (r.delay, r.advance)

def reset (r : Retry) : Retry := { r with attempts := 0 }

end Retry

def Backoff.retry (policy : Backoff) : Retry := { policy }

end WafControl
