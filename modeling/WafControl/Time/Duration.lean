/-!
# Durations

A span of time is a number of nanoseconds whose whole seconds fit 64 bits. The order is that of
the nanoseconds, and multiplication is refused where the product has too many seconds.

`Duration.parts` gives the seconds and the nanoseconds below a second; `ofParts?` is its inverse.
-/

namespace WafControl

namespace Duration

def second : Nat := 1000000000

def millisecond : Nat := 1000000

/-- The first number of nanoseconds whose whole seconds need more than 64 bits. -/
def limit : Nat := UInt64.size * second

end Duration

/-- A span of time in nanoseconds; its whole seconds fit 64 bits. -/
structure Duration where
  nanos : Nat
  nanos_lt : nanos < Duration.limit
  deriving DecidableEq, Repr

namespace Duration

def zero : Duration := ⟨0, by decide⟩

instance : Inhabited Duration := ⟨zero⟩

/-- The span of so many nanoseconds, if its seconds fit. -/
def ofNanos? (n : Nat) : Option Duration :=
  if h : n < limit then some ⟨n, h⟩ else none

/-- The span of `s` seconds and `n` nanoseconds, if `s` fits 64 bits and `n` is below a second. -/
def ofParts? (s n : Nat) : Option Duration :=
  if n < second then ofNanos? (s * second + n) else none

def seconds (d : Duration) : Nat := d.nanos / second

/-- Nanoseconds beyond the whole seconds. -/
def subNanos (d : Duration) : Nat := d.nanos % second

def parts (d : Duration) : Nat × Nat := (d.seconds, d.subNanos)

/-- The span of so many milliseconds; any 64-bit number of them fits. -/
def ofMillis (ms : UInt64) : Duration :=
  ⟨ms.toNat * millisecond, by
    have h := ms.toNat_lt
    unfold limit UInt64.size second millisecond
    omega⟩

/-- The span of so many seconds; any 64-bit number of them fits. -/
def ofSeconds (s : UInt64) : Duration :=
  ⟨s.toNat * second, by
    have h := s.toNat_lt
    unfold limit UInt64.size second
    omega⟩

/-- The product with a whole number, if its seconds fit. -/
def mul? (d : Duration) (k : Nat) : Option Duration := ofNanos? (d.nanos * k)

instance : LE Duration := ⟨fun a b => a.nanos ≤ b.nanos⟩
instance : LT Duration := ⟨fun a b => a.nanos < b.nanos⟩
instance (a b : Duration) : Decidable (a ≤ b) := inferInstanceAs (Decidable (a.nanos ≤ b.nanos))
instance (a b : Duration) : Decidable (a < b) := inferInstanceAs (Decidable (a.nanos < b.nanos))

instance : Min Duration := ⟨fun a b => if a ≤ b then a else b⟩

/-- The longest sleep in milliseconds: thirty years of 365 days. -/
def longestSleep : Nat := 30 * 365 * 86400 * 1000

/-- How long a sleep of this span takes on a clock that ticks in milliseconds: up to the next
whole millisecond, and never longer than the longest sleep. -/
def sleepMillis (d : Duration) : Nat :=
  min ((d.nanos + (millisecond - 1)) / millisecond) longestSleep

theorem nanos_eq_parts (d : Duration) : d.seconds * second + d.subNanos = d.nanos := by
  unfold seconds subNanos second
  omega

theorem ofParts?_parts (d : Duration) : ofParts? d.seconds d.subNanos = some d := by
  have h : d.subNanos < second := Nat.mod_lt _ (by decide)
  simp [ofParts?, h, nanos_eq_parts, ofNanos?, d.nanos_lt]

theorem nanos_min (a b : Duration) : (min a b).nanos = min a.nanos b.nanos := by
  show (if a.nanos ≤ b.nanos then a else b).nanos = _
  by_cases h : a.nanos ≤ b.nanos
  · rw [if_pos h, Nat.min_eq_left h]
  · rw [if_neg h, Nat.min_eq_right (Nat.le_of_not_le h)]

end Duration

end WafControl
