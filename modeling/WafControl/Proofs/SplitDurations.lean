import Mathlib.Algebra.Ring.Nat
import WafControl.Time.Backoff

/-!
# Durations in machine words

A machine keeps a duration as whole seconds in 64 bits and the nanoseconds below a second in 32. It
multiplies the two apart, carries the seconds that come out of the nanoseconds, and gives up where
the seconds no longer fit. Nothing wraps on the way: the product in words is the product of the
nanoseconds (`mul?_split`), and the doubling delays that are computed in words are those of the
policy (`exponential_split`).
-/

namespace WafControl

/-- A span of time in machine words. -/
structure SplitDuration where
  seconds : UInt64
  subNanos : UInt32
  subNanos_lt : subNanos.toNat < Duration.second
  deriving DecidableEq

namespace Duration

/-- The whole seconds and the nanoseconds below a second, in words. -/
def split (d : Duration) : SplitDuration where
  seconds := UInt64.ofNatLT d.seconds (Nat.div_lt_of_lt_mul (by
    rw [Nat.mul_comm]
    exact d.nanos_lt))
  subNanos := UInt32.ofNatLT d.subNanos
    (Nat.lt_trans (Nat.mod_lt _ (by decide : 0 < second)) (by decide))
  subNanos_lt := Nat.mod_lt _ (by decide)

end Duration

namespace SplitDuration

def nanos (d : SplitDuration) : Nat := d.seconds.toNat * Duration.second + d.subNanos.toNat

/-- The product of two words, if it is one. -/
def checkedMul (a b : UInt64) : Option UInt64 :=
  if a.toNat * b.toNat < UInt64.size then some (a * b) else none

/-- The sum of two words, if it is one. -/
def checkedAdd (a b : UInt64) : Option UInt64 :=
  if a.toNat + b.toNat < UInt64.size then some (a + b) else none

/-- The nanoseconds below a second, multiplied in 64 bits. -/
def scaledNanos (d : SplitDuration) (k : UInt32) : UInt64 := d.subNanos.toUInt64 * k.toUInt64

/-- What is left of multiplied nanoseconds below a second. -/
def restNanos (total : UInt64) : UInt32 := (total % 1000000000).toUInt32

theorem toNat_restNanos (total : UInt64) :
    (restNanos total).toNat = total.toNat % Duration.second := by
  have hlt : total.toNat % Duration.second < 2 ^ 32 :=
    Nat.lt_trans (Nat.mod_lt _ (by decide)) (by decide)
  rw [restNanos, UInt64.toNat_toUInt32, UInt64.toNat_mod]
  exact Nat.mod_eq_of_lt hlt

theorem restNanos_lt (total : UInt64) : (restNanos total).toNat < Duration.second := by
  rw [toNat_restNanos]
  exact Nat.mod_lt _ (by decide)

/-- The product with a word, if its seconds fit. -/
def mul? (d : SplitDuration) (k : UInt32) : Option SplitDuration :=
  let total := d.scaledNanos k
  (checkedMul d.seconds k.toUInt64).bind fun seconds =>
    (checkedAdd seconds (total / 1000000000)).map fun seconds =>
      ⟨seconds, restNanos total, restNanos_lt total⟩

/-- The order of the seconds, and where they are equal, of the nanoseconds. -/
instance : LE SplitDuration :=
  ⟨fun a b => a.seconds < b.seconds ∨ a.seconds = b.seconds ∧ a.subNanos ≤ b.subNanos⟩

instance (a b : SplitDuration) : Decidable (a ≤ b) :=
  inferInstanceAs (Decidable (a.seconds < b.seconds ∨
    a.seconds = b.seconds ∧ a.subNanos ≤ b.subNanos))

instance : Min SplitDuration := ⟨fun a b => if a ≤ b then a else b⟩

/-- A shift to the left, if it is by less than the width of the word. -/
def checkedShl (a k : UInt32) : Option UInt32 := if k.toNat < 32 then some (a <<< k) else none

/-- The power of two that belongs to an attempt; the greatest word where a shift fails. -/
def factor (attempt : UInt32) : UInt32 :=
  (checkedShl 1 (min attempt 31)).getD (UInt32.ofNat (UInt32.size - 1))

/-- The delay that doubles with every attempt, computed in words. -/
def exponential (least greatest : SplitDuration) (attempt : UInt32) : SplitDuration :=
  min ((least.mul? (factor attempt)).getD greatest) greatest

/-! ### Words and numbers -/

variable {a b d : SplitDuration} {k : UInt32}

theorem ext_nanos (h : a.nanos = b.nanos) : a = b := by
  have ha := a.subNanos_lt
  have hb := b.subNanos_lt
  simp only [nanos, Duration.second] at h ha hb
  have hseconds : a.seconds = b.seconds := UInt64.toNat_inj.1 (by omega)
  have hsubNanos : a.subNanos = b.subNanos := UInt32.toNat_inj.1 (by omega)
  cases a
  cases b
  cases hseconds
  cases hsubNanos
  rfl

@[simp] theorem nanos_split (d : Duration) : d.split.nanos = d.nanos := d.nanos_eq_parts

theorem le_iff_nanos : a ≤ b ↔ a.nanos ≤ b.nanos := by
  have ha := a.subNanos_lt
  have hb := b.subNanos_lt
  change a.seconds < b.seconds ∨ a.seconds = b.seconds ∧ a.subNanos ≤ b.subNanos ↔ _
  rw [UInt64.lt_iff_toNat_lt, ← UInt64.toNat_inj, UInt32.le_iff_toNat_le]
  simp only [nanos, Duration.second] at *
  omega

theorem min_split (c d : Duration) : min c.split d.split = (min c d).split := by
  change (if c.split ≤ d.split then c.split else d.split) = (if c ≤ d then c else d).split
  have hle : c.split ≤ d.split ↔ c ≤ d := by
    rw [le_iff_nanos, nanos_split, nanos_split]
    rfl
  by_cases h : c ≤ d
  · rw [if_pos h, if_pos (hle.2 h)]
  · rw [if_neg h, if_neg (fun h' => h (hle.1 h'))]

theorem checkedMul_eq_some (a : UInt64) (k : UInt32) (h : a.toNat * k.toNat < UInt64.size) :
    ∃ p, checkedMul a k.toUInt64 = some p ∧ p.toNat = a.toNat * k.toNat := by
  refine ⟨a * k.toUInt64, ?_, ?_⟩
  · rw [checkedMul, UInt32.toNat_toUInt64, if_pos h]
  · rw [UInt64.toNat_mul, UInt32.toNat_toUInt64]
    exact Nat.mod_eq_of_lt h

theorem checkedAdd_eq_some (a b : UInt64) (h : a.toNat + b.toNat < UInt64.size) :
    ∃ s, checkedAdd a b = some s ∧ s.toNat = a.toNat + b.toNat := by
  refine ⟨a + b, if_pos h, ?_⟩
  rw [UInt64.toNat_add]
  exact Nat.mod_eq_of_lt h

/-- Less than a second of nanoseconds times a 32-bit word fits 64 bits. -/
theorem toNat_scaledNanos (d : SplitDuration) (k : UInt32) :
    (d.scaledNanos k).toNat = d.subNanos.toNat * k.toNat := by
  have hfits : d.subNanos.toNat * k.toNat < 2 ^ 64 := calc
    d.subNanos.toNat * k.toNat ≤ Duration.second * k.toNat :=
      Nat.mul_le_mul_right _ (Nat.le_of_lt d.subNanos_lt)
    _ ≤ Duration.second * 2 ^ 32 := Nat.mul_le_mul_left _ (Nat.le_of_lt k.toNat_lt)
    _ < 2 ^ 64 := by decide
  rw [scaledNanos, UInt64.toNat_mul, UInt32.toNat_toUInt64, UInt32.toNat_toUInt64]
  exact Nat.mod_eq_of_lt hfits

/-- The whole seconds of a product: those of the seconds, and those carried over. -/
def wholeSeconds (d : SplitDuration) (k : UInt32) : Nat :=
  d.seconds.toNat * k.toNat + d.subNanos.toNat * k.toNat / Duration.second

theorem nanos_mul (d : SplitDuration) (k : UInt32) :
    d.nanos * k.toNat = d.wholeSeconds k * Duration.second +
      d.subNanos.toNat * k.toNat % Duration.second := by
  have hcarry := Nat.div_add_mod' (d.subNanos.toNat * k.toNat) Duration.second
  rw [wholeSeconds, Nat.add_mul, Nat.add_assoc, hcarry, nanos, Nat.add_mul, Nat.mul_right_comm]

/-- The product is a duration exactly if its whole seconds fit a word. -/
theorem nanos_mul_lt_iff (d : SplitDuration) (k : UInt32) :
    d.nanos * k.toNat < Duration.limit ↔ d.wholeSeconds k < UInt64.size := by
  have hrest : d.subNanos.toNat * k.toNat % Duration.second < Duration.second :=
    Nat.mod_lt _ (by decide)
  rw [nanos_mul, Duration.limit]
  simp only [Duration.second, UInt64.size] at *
  omega

theorem toNat_carry (d : SplitDuration) (k : UInt32) :
    (d.scaledNanos k / 1000000000).toNat = d.subNanos.toNat * k.toNat / Duration.second := by
  rw [UInt64.toNat_div, toNat_scaledNanos]
  rfl

theorem mul?_of_lt (h : d.wholeSeconds k < UInt64.size) :
    ∃ p, d.mul? k = some p ∧ p.nanos = d.nanos * k.toNat := by
  obtain ⟨product, hproduct, hp⟩ := checkedMul_eq_some d.seconds k
    (Nat.lt_of_le_of_lt (Nat.le_add_right _ _) h)
  obtain ⟨sum, hsum, hs⟩ := checkedAdd_eq_some product (d.scaledNanos k / 1000000000) (by
    rw [hp, toNat_carry]
    exact h)
  refine ⟨⟨sum, restNanos (d.scaledNanos k), restNanos_lt _⟩, ?_, ?_⟩
  · simp only [mul?, hproduct, Option.bind_some, hsum, Option.map_some]
  · rw [nanos, nanos_mul, hs, hp, toNat_carry, toNat_restNanos, toNat_scaledNanos, wholeSeconds]

theorem mul?_of_not_lt (h : ¬ d.wholeSeconds k < UInt64.size) : d.mul? k = none := by
  by_cases hproduct : d.seconds.toNat * k.toNat < UInt64.size
  · obtain ⟨product, hmul, hp⟩ := checkedMul_eq_some d.seconds k hproduct
    have hsum : ¬ product.toNat + (d.scaledNanos k / 1000000000).toNat < UInt64.size := by
      rw [hp, toNat_carry]
      exact h
    simp only [mul?, hmul, Option.bind_some, checkedAdd, if_neg hsum, Option.map_none]
  · have hmul : checkedMul d.seconds k.toUInt64 = none := by
      rw [checkedMul, UInt32.toNat_toUInt64, if_neg hproduct]
    simp only [mul?, hmul, Option.bind_none]

/-- Multiplying in words is multiplying the nanoseconds, and it fails only where the product is no
duration. -/
theorem mul?_split (d : Duration) (k : UInt32) :
    d.split.mul? k = (d.mul? k.toNat).map Duration.split := by
  have hfits := nanos_mul_lt_iff d.split k
  rw [nanos_split] at hfits
  rw [Duration.mul?, Duration.ofNanos?]
  by_cases h : d.nanos * k.toNat < Duration.limit
  · obtain ⟨p, hp, hnanos⟩ := mul?_of_lt (hfits.1 h)
    rw [hp, dif_pos h, Option.map_some, Option.some.injEq]
    apply ext_nanos
    rw [hnanos, nanos_split, nanos_split]
  · rw [mul?_of_not_lt (fun h' => h (hfits.2 h')), dif_neg h, Option.map_none]

/-! ### Doubling -/

/-- No attempt shifts too far, so the factor is always a power of two. -/
theorem toNat_factor (attempt : UInt32) :
    (factor attempt).toNat = 2 ^ min attempt.toNat Backoff.maxDoublings := by
  have hmin : (min attempt 31).toNat = min attempt.toNat Backoff.maxDoublings := by
    change (if attempt ≤ 31 then attempt else 31).toNat = _
    have hle : attempt ≤ 31 ↔ attempt.toNat ≤ Backoff.maxDoublings := UInt32.le_iff_toNat_le
    by_cases h : attempt ≤ 31
    · rw [if_pos h, Nat.min_eq_left (hle.1 h)]
    · rw [if_neg h, Nat.min_eq_right (Nat.le_of_not_le fun h' => h (hle.2 h'))]
      rfl
  have hwidth : (min attempt 31).toNat < 32 := by
    rw [hmin]
    exact Nat.lt_of_le_of_lt (Nat.min_le_right _ _) (by decide)
  have hpower : 2 ^ (min attempt 31).toNat < 2 ^ 32 :=
    Nat.pow_lt_pow_right (by decide) hwidth
  rw [factor, checkedShl, if_pos hwidth, Option.getD_some, UInt32.toNat_shiftLeft, ← hmin,
    Nat.mod_eq_of_lt hwidth, Nat.shiftLeft_eq]
  simpa using hpower

/-- The delays computed in words are those of the policy. -/
theorem exponential_split (least greatest : Duration) (attempt : UInt32) :
    exponential least.split greatest.split attempt =
      ((Backoff.exponential least greatest).delay attempt.toNat).split := by
  rw [exponential, mul?_split, toNat_factor]
  simp only [Backoff.delay]
  change min ((Option.map Duration.split
    (least.mul? (Nat.pow 2 (min attempt.toNat Backoff.maxDoublings)))).getD _) _ = _
  cases least.mul? (Nat.pow 2 (min attempt.toNat Backoff.maxDoublings)) with
  | none => exact (min_split _ _).trans (congrArg _ (ite_self _))
  | some d => exact min_split _ _

end SplitDuration

end WafControl
