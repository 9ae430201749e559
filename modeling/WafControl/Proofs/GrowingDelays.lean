import Mathlib.Data.List.Forall2
import Mathlib.Order.MinMax
import Mathlib.Order.Monotone.Defs
import WafControl.Proofs.SplitDurations

/-!
# Growing delays

A retry is asked for delays, waits them out and is reset, in any order. Every step of it is due
after those before (`RetryStep.AllDue`): its delay is the one that the policy has for the number of
delays given since the last reset, as far as that number fits a word of 32 bits. A policy asks for
no less at a later attempt (`Backoff.delay_monotone`), although its doubling stops and its products
may overflow. So neither the delays nor the attempts counted shrink from one reset to the next
(`Retry.delays_never_shrink`), and a machine that counts in words finds the same.
-/

namespace WafControl

instance : Preorder Duration where
  le_refl d := Nat.le_refl d.nanos
  le_trans _ _ _ := Nat.le_trans
  lt_iff_le_not_ge _ _ := Nat.lt_iff_le_and_not_ge

namespace Backoff

variable (policy : Backoff) {least greatest : Duration}

theorem delay_monotone : Monotone policy.delay := by
  intro m n h
  cases policy with
  | fixed d => exact le_refl d
  | exponential least greatest =>
      have hpow : Nat.pow 2 (min m maxDoublings) ≤ Nat.pow 2 (min n maxDoublings) :=
        Nat.pow_le_pow_right (by decide) (min_le_min_right _ h)
      change Duration.nanos _ ≤ Duration.nanos _
      rw [nanos_delay_exponential, nanos_delay_exponential]
      exact min_le_min_right _ (Nat.mul_le_mul_left _ hpow)

theorem delay_le_greatest (n : Nat) : (exponential least greatest).delay n ≤ greatest := by
  change Duration.nanos _ ≤ _
  rw [nanos_delay_exponential]
  exact Nat.min_le_right _ _

theorem least_le_delay (h : least ≤ greatest) (n : Nat) :
    least ≤ (exponential least greatest).delay n := by
  change _ ≤ Duration.nanos _
  rw [nanos_delay_exponential]
  exact Nat.le_min.2 ⟨Nat.le_mul_of_pos_right _ (Nat.pow_pos (by decide)), h⟩

/-- The delays that are within the limits of a policy. If the least delay is above the greatest one,
only the latter is a limit. -/
def Admits : Backoff → Duration → Prop
  | fixed delay, d => d = delay
  | exponential least greatest, d => d ≤ greatest ∧ (least ≤ greatest → least ≤ d)

theorem admits_delay (n : Nat) : policy.Admits (policy.delay n) := by
  cases policy with
  | fixed delay => exact delay_fixed delay n
  | exponential least greatest => exact ⟨delay_le_greatest n, fun h => least_le_delay h n⟩

end Backoff

/-! ### The steps of a retry -/

/-- What is asked of a retry. A wait may be given up after so many milliseconds; one that is never
begun asks for nothing. -/
inductive RetryCall where
  | next
  | wait (patience : Option Nat)
  | reset
  deriving DecidableEq, Repr

/-- How many milliseconds a call takes that is given a delay. -/
def RetryCall.elapsed (d : Duration) : RetryCall → Nat
  | wait none => d.sleepMillis
  | wait (some patience) => min patience d.sleepMillis
  | _ => 0

/-- What a call has come to, with the attempts that are counted after it. -/
structure RetryStep where
  call : RetryCall
  delay? : Option Duration
  elapsed : Nat
  attempts : Nat
  deriving DecidableEq, Repr

namespace Retry

def step (r : Retry) : RetryCall → RetryStep × Retry
  | .reset => (⟨.reset, none, 0, r.reset.attempts⟩, r.reset)
  | call => (⟨call, some r.next.1, call.elapsed r.next.1, r.next.2.attempts⟩, r.next.2)

/-- What calls come to that are made one after the other. -/
def steps : Retry → List RetryCall → List RetryStep
  | _, [] => []
  | r, call :: calls => (r.step call).1 :: steps (r.step call).2 calls

variable {r : Retry} {call : RetryCall} {calls : List RetryCall}

@[simp] theorem call_step : (r.step call).1.call = call := by
  cases call with
  | next | wait | reset => rfl

theorem delay?_step : (r.step call).1.delay? = if call = .reset then none else some r.delay := by
  cases call with
  | next | wait | reset => rfl

theorem elapsed_step :
    (r.step call).1.elapsed = ((r.step call).1.delay?.map call.elapsed).getD 0 := by
  cases call with
  | next | wait | reset => rfl

theorem attempts_step : (r.step call).1.attempts = (r.step call).2.attempts := by
  cases call with
  | next | wait | reset => rfl

theorem step_snd : (r.step call).2 = if call = .reset then r.reset else r.advance := by
  cases call with
  | next | wait | reset => rfl

theorem map_call_steps : (r.steps calls).map RetryStep.call = calls := by
  induction calls generalizing r with
  | nil => rfl
  | cons call calls ih => rw [steps, List.map_cons, call_step, ih]

end Retry

namespace RetryStep

/-- The number of delays given since the last reset. -/
def givenSince (steps : List RetryStep) : Nat :=
  (steps.reverse.takeWhile (·.call ≠ .reset)).countP (·.delay?.isSome)

/-- The delays given since the last reset, as far as a word can count them. -/
def attemptsAfter (steps : List RetryStep) : Nat := min (givenSince steps) Retry.maxAttempts

/-- What a step is to be after earlier ones. Unless it is a reset, it is given the delay for the
attempts counted so far, and it takes as long as its call does with that delay. -/
structure Due (policy : Backoff) (earlier : List RetryStep) (s : RetryStep) : Prop where
  delay?_eq :
    s.delay? = if s.call = .reset then none else some (policy.delay (attemptsAfter earlier))
  elapsed_eq : s.elapsed = (s.delay?.map s.call.elapsed).getD 0
  attempts_eq : s.attempts = attemptsAfter (earlier ++ [s])

/-- Every step is due after those before it. -/
def AllDue (policy : Backoff) : List RetryStep → List RetryStep → Prop
  | _, [] => True
  | earlier, s :: rest => Due policy earlier s ∧ AllDue policy (earlier ++ [s]) rest

variable {policy : Backoff} {earlier rest stretch : List RetryStep} {s : RetryStep}

theorem givenSince_concat_of_reset (h : s.call = .reset) : givenSince (earlier ++ [s]) = 0 := by
  simp [givenSince, h]

theorem givenSince_concat_of_given {d : Duration} (h : s.call ≠ .reset) (hd : s.delay? = some d) :
    givenSince (earlier ++ [s]) = givenSince earlier + 1 := by
  simp [givenSince, h, hd]

theorem attemptsAfter_concat_of_given {d : Duration} (h : s.call ≠ .reset)
    (hd : s.delay? = some d) :
    attemptsAfter (earlier ++ [s]) = min (attemptsAfter earlier + 1) Retry.maxAttempts := by
  rw [attemptsAfter, givenSince_concat_of_given h hd, attemptsAfter]
  omega

theorem allDue_cons :
    AllDue policy earlier (s :: rest) ↔
      Due policy earlier s ∧ AllDue policy (earlier ++ [s]) rest :=
  Iff.rfl

theorem allDue_append :
    AllDue policy earlier (stretch ++ rest) ↔
      AllDue policy earlier stretch ∧ AllDue policy (earlier ++ stretch) rest := by
  induction stretch generalizing earlier with
  | nil => simp [AllDue]
  | cons s stretch ih =>
      have hpath : earlier ++ s :: stretch = earlier ++ [s] ++ stretch := by simp
      rw [List.cons_append, allDue_cons, allDue_cons, ih, hpath, and_assoc]

/-- A retry under a policy that has counted the attempts after some steps. -/
structure Counted (policy : Backoff) (earlier : List RetryStep) (r : Retry) : Prop where
  policy_eq : r.policy = policy
  attempts_eq : r.attempts = attemptsAfter earlier

theorem counted_retry (policy : Backoff) : Counted policy [] policy.retry := ⟨rfl, rfl⟩

variable {r : Retry}

theorem Counted.step (h : Counted policy earlier r) (call : RetryCall) :
    Counted policy (earlier ++ [(r.step call).1]) (r.step call).2 := by
  rw [Retry.step_snd]
  by_cases hcall : call = .reset
  · rw [if_pos hcall]
    refine ⟨h.policy_eq, ?_⟩
    rw [attemptsAfter, givenSince_concat_of_reset (Retry.call_step.trans hcall)]
    rfl
  · have hgiven : (r.step call).1.delay? = some r.delay :=
      Retry.delay?_step.trans (if_neg hcall)
    rw [if_neg hcall]
    refine ⟨h.policy_eq, ?_⟩
    rw [attemptsAfter_concat_of_given (Retry.call_step.trans_ne hcall) hgiven, ← h.attempts_eq]
    rfl

theorem Counted.due (h : Counted policy earlier r) (call : RetryCall) :
    Due policy earlier (r.step call).1 where
  delay?_eq := by
    rw [Retry.call_step, Retry.delay?_step, Retry.delay, h.policy_eq, h.attempts_eq]
  elapsed_eq := by
    rw [Retry.call_step]
    exact Retry.elapsed_step
  attempts_eq := Retry.attempts_step.trans (h.step call).attempts_eq

theorem Counted.allDue_steps (h : Counted policy earlier r) (calls : List RetryCall) :
    AllDue policy earlier (r.steps calls) := by
  induction calls generalizing earlier r with
  | nil => trivial
  | cons call calls ih => exact ⟨h.due call, ih (h.step call)⟩

/-! ### What is due never shrinks -/

theorem Due.of_mem {d : Duration} (h : Due policy earlier s) (hd : d ∈ s.delay?) :
    d = policy.delay (attemptsAfter earlier) := by
  rw [h.delay?_eq] at hd
  split at hd
  · cases hd
  · exact (Option.some.inj hd).symm

theorem Due.attemptsAfter_le (h : Due policy earlier s) (hcall : s.call ≠ .reset) :
    attemptsAfter earlier ≤ attemptsAfter (earlier ++ [s]) := by
  have hgiven : s.delay? = some (policy.delay (attemptsAfter earlier)) :=
    h.delay?_eq.trans (if_neg hcall)
  have hle : attemptsAfter earlier ≤ Retry.maxAttempts := Nat.min_le_right _ _
  rw [attemptsAfter_concat_of_given hcall hgiven]
  exact Nat.le_min.2 ⟨Nat.le_succ _, hle⟩

theorem AllDue.admits (h : AllDue policy earlier stretch) :
    ∀ s ∈ stretch, ∀ d ∈ s.delay?, policy.Admits d := by
  induction stretch generalizing earlier with
  | nil => nofun
  | cons s stretch ih =>
      obtain ⟨hs, hrest⟩ := h
      refine List.forall_mem_cons.2 ⟨fun d hd => ?_, ih hrest⟩
      rw [hs.of_mem hd]
      exact policy.admits_delay _

/-- As long as there is no reset, nothing falls below what has been counted. The induction is on the
steps to come, each of which adds to the count or finds it at its end. -/
theorem AllDue.le_of_mem (h : AllDue policy earlier stretch)
    (hreset : ∀ s ∈ stretch, s.call ≠ .reset) :
    ∀ s ∈ stretch, attemptsAfter earlier ≤ s.attempts ∧
      ∀ d ∈ s.delay?, policy.delay (attemptsAfter earlier) ≤ d := by
  induction stretch generalizing earlier with
  | nil => nofun
  | cons s stretch ih =>
      obtain ⟨hs, hrest⟩ := h
      obtain ⟨hcall, hcalls⟩ := List.forall_mem_cons.1 hreset
      have hle := hs.attemptsAfter_le hcall
      refine List.forall_mem_cons.2 ⟨⟨?_, fun d hd => ?_⟩, fun t ht => ?_⟩
      · rw [hs.attempts_eq]
        exact hle
      · rw [hs.of_mem hd]
      · obtain ⟨hattempts, hdelay⟩ := ih hrest hcalls t ht
        exact ⟨hle.trans hattempts, fun d hd => (policy.delay_monotone hle).trans (hdelay d hd)⟩

theorem AllDue.pairwise (h : AllDue policy earlier stretch)
    (hreset : ∀ s ∈ stretch, s.call ≠ .reset) :
    stretch.Pairwise fun s t =>
      (∀ d ∈ s.delay?, ∀ d' ∈ t.delay?, d ≤ d') ∧ s.attempts ≤ t.attempts := by
  induction stretch generalizing earlier with
  | nil => exact .nil
  | cons s stretch ih =>
      obtain ⟨hs, hrest⟩ := h
      obtain ⟨hcall, hcalls⟩ := List.forall_mem_cons.1 hreset
      refine .cons (fun t ht => ?_) (ih hrest hcalls)
      obtain ⟨hattempts, hdelay⟩ := hrest.le_of_mem hcalls t ht
      refine ⟨fun d hd d' hd' => ?_, hs.attempts_eq.trans_le hattempts⟩
      rw [hs.of_mem hd]
      exact (policy.delay_monotone (hs.attemptsAfter_le hcall)).trans (hdelay d' hd')

end RetryStep

/-! ### Counting in words -/

/-- A policy over durations in machine words. -/
inductive SplitBackoff where
  | fixed (delay : SplitDuration)
  | exponential (least greatest : SplitDuration)
  deriving DecidableEq

/-- A retry in machine words. -/
structure SplitRetry where
  policy : SplitBackoff
  attempts : UInt32
  deriving DecidableEq

/-- What a call comes to in machine words. -/
structure SplitStep where
  delay? : Option SplitDuration
  attempts : UInt32
  deriving DecidableEq

def SplitBackoff.delay : SplitBackoff → UInt32 → SplitDuration
  | fixed d, _ => d
  | exponential least greatest, attempt => SplitDuration.exponential least greatest attempt

def Backoff.split : Backoff → SplitBackoff
  | fixed d => .fixed d.split
  | exponential least greatest => .exponential least.split greatest.split

theorem Backoff.delay_split (policy : Backoff) (attempt : UInt32) :
    policy.split.delay attempt = (policy.delay attempt.toNat).split := by
  cases policy with
  | fixed d => rfl
  | exponential least greatest => exact SplitDuration.exponential_split least greatest attempt

namespace SplitRetry

/-- The sum of two words, or the greatest word if the sum is none. -/
def saturatingAdd (a b : UInt32) : UInt32 :=
  if a.toNat + b.toNat < UInt32.size then a + b else UInt32.ofNat (UInt32.size - 1)

def step (w : SplitRetry) : RetryCall → SplitStep × SplitRetry
  | .reset => (⟨none, 0⟩, { w with attempts := 0 })
  | _ =>
    let attempts := saturatingAdd w.attempts 1
    (⟨some (w.policy.delay w.attempts), attempts⟩, { w with attempts })

def steps : SplitRetry → List RetryCall → List SplitStep
  | _, [] => []
  | w, call :: calls => (w.step call).1 :: steps (w.step call).2 calls

theorem toNat_saturatingAdd (a b : UInt32) :
    (saturatingAdd a b).toNat = min (a.toNat + b.toNat) Retry.maxAttempts := by
  by_cases h : a.toNat + b.toNat < UInt32.size
  · rw [saturatingAdd, if_pos h, UInt32.toNat_add, Nat.mod_eq_of_lt h]
    exact (Nat.min_eq_left (Nat.le_sub_one_of_lt h)).symm
  · have hle : Retry.maxAttempts ≤ a.toNat + b.toNat :=
      Nat.le_trans (Nat.sub_le _ _) (Nat.le_of_not_lt h)
    rw [saturatingAdd, if_neg h, Nat.min_eq_right hle]
    rfl

/-- A step in words has the delay and the count of a step. -/
structure Reads (v : SplitStep) (s : RetryStep) : Prop where
  delay?_eq : v.delay? = s.delay?.map Duration.split
  attempts_eq : v.attempts.toNat = s.attempts

/-- A retry in words has the policy and the count of a retry. -/
structure Refines (w : SplitRetry) (r : Retry) : Prop where
  policy_eq : w.policy = r.policy.split
  attempts_eq : w.attempts.toNat = r.attempts

variable {w : SplitRetry} {r : Retry}

theorem Refines.step (h : Refines w r) (call : RetryCall) :
    Reads (w.step call).1 (r.step call).1 ∧ Refines (w.step call).2 (r.step call).2 := by
  have hdelay : w.policy.delay w.attempts = r.delay.split := by
    rw [h.policy_eq, Backoff.delay_split, h.attempts_eq]
    rfl
  have hcount : (saturatingAdd w.attempts 1).toNat = r.advance.attempts := by
    rw [toNat_saturatingAdd, h.attempts_eq]
    rfl
  cases call with
  | next | wait => exact ⟨⟨congrArg some hdelay, hcount⟩, h.policy_eq, hcount⟩
  | reset => exact ⟨⟨rfl, rfl⟩, h.policy_eq, rfl⟩

theorem Refines.steps (h : Refines w r) (calls : List RetryCall) :
    List.Forall₂ Reads (w.steps calls) (r.steps calls) := by
  induction calls generalizing w r with
  | nil => exact .nil
  | cons call calls ih => exact .cons (h.step call).1 (ih (h.step call).2)

end SplitRetry

namespace Retry

/-- Whatever is asked of a retry, every delay is the one that the policy has for the number of
delays given since the last reset. As long as there is no reset, neither the delays nor the attempts
counted shrink, and no delay is ever beyond the limits of the policy. Durations and counts in
machine words are the same ones, so that a count in a word never wraps round. -/
theorem delays_never_shrink (policy : Backoff) (calls : List RetryCall) :
    let steps := policy.retry.steps calls
    steps.map RetryStep.call = calls ∧
      RetryStep.AllDue policy [] steps ∧
      (∀ stretch, stretch <:+: steps → (∀ s ∈ stretch, s.call ≠ .reset) →
        (stretch.filterMap RetryStep.delay?).Pairwise (· ≤ ·) ∧
          (stretch.map RetryStep.attempts).Pairwise (· ≤ ·)) ∧
      (∀ s ∈ steps, ∀ d ∈ s.delay?, policy.Admits d) ∧
      List.Forall₂ SplitRetry.Reads (SplitRetry.steps ⟨policy.split, 0⟩ calls) steps := by
  intro steps
  have hdue : RetryStep.AllDue policy [] steps :=
    (RetryStep.counted_retry policy).allDue_steps calls
  have hwords : SplitRetry.Refines ⟨policy.split, 0⟩ policy.retry := ⟨rfl, rfl⟩
  refine ⟨map_call_steps, hdue, fun stretch hpart hreset => ?_, hdue.admits, hwords.steps calls⟩
  obtain ⟨before, behind, hsteps⟩ := hpart
  rw [← hsteps, RetryStep.allDue_append, RetryStep.allDue_append] at hdue
  have hpairs := hdue.1.2.pairwise hreset
  rw [List.pairwise_filterMap, List.pairwise_map]
  exact ⟨hpairs.imp And.left, hpairs.imp And.right⟩

/-- Calls of every kind under a policy whose greatest delay is no power of two. -/
def cappedCalls : List RetryCall := [.next, .wait none, .wait (some 10), .next, .reset, .wait none]

/-- Four delays from one second to the greatest of five, the third of them waited for in part. -/
theorem capped_delays_never_shrink :
    let policy := Backoff.exponential (.ofSeconds 1) (.ofSeconds 5)
    let steps := policy.retry.steps cappedCalls
    let stretch := steps.take 4
    let third : RetryStep := ⟨.wait (some 10), some (.ofSeconds 4), 10, 3⟩
    (stretch <:+: steps ∧ ∀ s ∈ stretch, s.call ≠ .reset) ∧
      stretch.filterMap RetryStep.delay? =
        [.ofSeconds 1, .ofSeconds 2, .ofSeconds 4, .ofSeconds 5] ∧
      (stretch.filterMap RetryStep.delay?).Pairwise (· ≤ ·) ∧
      (stretch.map RetryStep.attempts).Pairwise (· ≤ ·) ∧
      (third ∈ steps ∧ .ofSeconds 4 ∈ third.delay?) ∧
      policy.Admits (.ofSeconds 4) := by
  intro policy steps stretch third
  have hpart : stretch <:+: steps := (List.take_prefix 4 steps).isInfix
  have hreset : ∀ s ∈ stretch, s.call ≠ .reset := by decide
  have hthird : third ∈ steps := by decide +kernel
  obtain ⟨-, -, hgrow, hadmits, -⟩ := delays_never_shrink policy cappedCalls
  obtain ⟨hdelays, hattempts⟩ := hgrow stretch hpart hreset
  exact ⟨⟨hpart, hreset⟩, by decide, hdelays, hattempts, ⟨hthird, rfl⟩,
    hadmits third hthird _ rfl⟩

end Retry

end WafControl
