import WafControl.Proofs.SplitDurations

/-!
# Doubling delays

An exponential policy promises to double its delay with every attempt until it reaches the greatest
one. It keeps that promise for the first 31 attempts, and for ever if the greatest delay is reached
by then or there is nothing to double. Under any other policy the delay stops growing below the
greatest one, however many attempts follow: `doubling_exact_iff` says exactly when. The delays
computed in machine words are the same, so that nothing overflows or wraps on the way.
-/

namespace WafControl

theorem Duration.eq_of_nanos_eq {c d : Duration} (h : c.nanos = d.nanos) : c = d := by
  cases c
  cases d
  cases h
  rfl

namespace Backoff

/-- The last doubling has reached the greatest delay, or there is nothing to double. -/
def Exhausted (least greatest : Duration) : Prop :=
  least.nanos = 0 ∨ greatest.nanos ≤ least.nanos * 2 ^ 31

instance (least greatest : Duration) : Decidable (Exhausted least greatest) :=
  inferInstanceAs (Decidable (_ ∨ _))

variable {least greatest : Duration} {n : Nat}

/-- The delay in nanoseconds before retry number `n` under an exponential policy. -/
def doubled (least greatest : Duration) (n : Nat) : Nat :=
  ((exponential least greatest).delay n).nanos

theorem doubled_of_le (h : n ≤ 31) :
    doubled least greatest n = min greatest.nanos (least.nanos * 2 ^ n) := by
  have hpow : Nat.pow 2 (min n maxDoublings) = 2 ^ n := congrArg _ (Nat.min_eq_left h)
  rw [doubled, nanos_delay_exponential, hpow, Nat.min_comm]

theorem doubled_of_ge (h : 31 ≤ n) :
    doubled least greatest n = min greatest.nanos (least.nanos * 2 ^ 31) := by
  have hpow : Nat.pow 2 (min n maxDoublings) = 2 ^ 31 := congrArg _ (Nat.min_eq_right h)
  rw [doubled, nanos_delay_exponential, hpow, Nat.min_comm]

theorem doubled_of_exhausted (h : Exhausted least greatest) (hn : 31 ≤ n) :
    doubled least greatest n = min greatest.nanos (least.nanos * 2 ^ n) := by
  have hle : least.nanos * 2 ^ 31 ≤ least.nanos * 2 ^ n :=
    Nat.mul_le_mul_left _ (Nat.pow_le_pow_right (by decide) hn)
  rw [doubled_of_ge hn]
  rcases h with hzero | hreached
  · rw [hzero, Nat.zero_mul, Nat.zero_mul]
  · rw [Nat.min_eq_left hreached, Nat.min_eq_left (Nat.le_trans hreached hle)]

theorem doubled_of_not_exhausted (h : ¬ Exhausted least greatest) (hn : 31 ≤ n) :
    doubled least greatest n = least.nanos * 2 ^ 31 := by
  rw [doubled_of_ge hn]
  exact Nat.min_eq_right (Nat.le_of_not_le fun h' => h (.inr h'))

/-- Where doubling is not over, one more power of two makes a difference. -/
theorem lt_of_not_exhausted (h : ¬ Exhausted least greatest) (hn : 32 ≤ n) :
    least.nanos * 2 ^ 31 < min greatest.nanos (least.nanos * 2 ^ n) := by
  obtain ⟨hpos, hlt⟩ := not_or.1 h
  refine Nat.lt_min.2 ⟨Nat.lt_of_not_le hlt, ?_⟩
  exact Nat.mul_lt_mul_of_pos_left (Nat.pow_lt_pow_right (by decide) hn) (Nat.pos_of_ne_zero hpos)

theorem doubled_eq_min_iff :
    doubled least greatest n = min greatest.nanos (least.nanos * 2 ^ n) ↔
      n ≤ 31 ∨ Exhausted least greatest := by
  by_cases hn : n ≤ 31
  · exact iff_of_true (doubled_of_le hn) (.inl hn)
  have hlate : 32 ≤ n := Nat.lt_of_not_le hn
  by_cases hex : Exhausted least greatest
  · exact iff_of_true (doubled_of_exhausted hex (Nat.le_of_succ_le hlate)) (.inr hex)
  · rw [doubled_of_not_exhausted hex (Nat.le_of_succ_le hlate)]
    exact iff_of_false (Nat.ne_of_lt (lt_of_not_exhausted hex hlate)) (not_or.2 ⟨hn, hex⟩)

theorem min_two_mul_min (g m : Nat) : min g (2 * min g m) = min g (m * 2) := by omega

/-- The delay doubles from one attempt to the next, or has reached the greatest one. -/
theorem doubled_succ_iff :
    doubled least greatest (n + 1) = min greatest.nanos (2 * doubled least greatest n) ↔
      n < 31 ∨ Exhausted least greatest := by
  by_cases h : n ≤ 31 ∨ Exhausted least greatest
  · rw [doubled_eq_min_iff.2 h, min_two_mul_min, Nat.mul_assoc, ← Nat.pow_succ]
    exact doubled_eq_min_iff
  · obtain ⟨hn, hex⟩ := not_or.1 h
    have hlate : 31 ≤ n := Nat.le_of_lt (Nat.lt_of_not_le hn)
    have hpos : 0 < least.nanos := Nat.pos_of_ne_zero fun h0 => hex (.inl h0)
    have hlt : least.nanos * 2 ^ 31 < greatest.nanos := Nat.lt_of_not_le fun h' => hex (.inr h')
    rw [doubled_of_not_exhausted hex hlate,
      doubled_of_not_exhausted hex (Nat.le_trans hlate (Nat.le_succ n))]
    refine iff_of_false (fun heq => ?_) (not_or.2 ⟨Nat.not_lt.2 hlate, hex⟩)
    omega

/-- The delay is the greatest one once the exact product has reached that, unless doubling had
stopped before. -/
theorem doubled_eq_greatest_iff :
    doubled least greatest n = greatest.nanos ↔
      greatest.nanos ≤ least.nanos * 2 ^ n ∧ (n ≤ 31 ∨ Exhausted least greatest) := by
  by_cases h : n ≤ 31 ∨ Exhausted least greatest
  · rw [doubled_eq_min_iff.2 h, and_iff_left h]
    exact ⟨fun heq => heq ▸ Nat.min_le_right _ _, Nat.min_eq_left⟩
  · obtain ⟨hn, hex⟩ := not_or.1 h
    rw [doubled_of_not_exhausted hex (Nat.le_of_lt (Nat.lt_of_not_le hn))]
    exact iff_of_false (fun heq => hex (.inr (Nat.le_of_eq heq.symm))) fun hreached => h hreached.2

/-- An exponential delay is the smaller of the greatest one and the exact product with a power of
two, it doubles with every attempt until it is capped, and it is capped once the product is, exactly
for the first 31 attempts and where doubling is over by then. In any case it is what machine words
make of it. -/
theorem doubling_exact_iff (least greatest : Duration) (attempt : UInt32) :
    let n := attempt.toNat
    let delay := (exponential least greatest).delay
    ((delay n).nanos = min greatest.nanos (least.nanos * 2 ^ n) ↔
        n ≤ 31 ∨ Exhausted least greatest) ∧
      ((delay (n + 1)).nanos = min greatest.nanos (2 * (delay n).nanos) ↔
        n < 31 ∨ Exhausted least greatest) ∧
      (delay n = greatest ↔
        greatest.nanos ≤ least.nanos * 2 ^ n ∧ (n ≤ 31 ∨ Exhausted least greatest)) ∧
      SplitDuration.exponential least.split greatest.split attempt = (delay n).split := by
  intro n delay
  refine ⟨doubled_eq_min_iff, doubled_succ_iff, ?_,
    SplitDuration.exponential_split least greatest attempt⟩
  rw [← doubled_eq_greatest_iff, doubled]
  exact ⟨congrArg _, Duration.eq_of_nanos_eq⟩

/-- A nanosecond that doubles stops at two seconds, far below a greatest delay of four. -/
theorem doubling_not_always_exact :
    ¬ ∀ (least greatest : Duration) (attempt : UInt32),
      ((exponential least greatest).delay attempt.toNat).nanos =
        min greatest.nanos (least.nanos * 2 ^ attempt.toNat) := by
  intro h
  have h32 := h ⟨1, by decide⟩ (Duration.ofSeconds 4) 32
  revert h32
  decide

end Backoff

end WafControl
