import WafControl.Proofs.NodeRecords

/-!
# The starts of a spawned relay

A relay that was just spawned is started until it accepts the start or the attempts are used up. The
starts of a node follow each other (`NodeOps.started`), and what they answer decides how many are
made. In the end there is one wait between any two of them and none after the last
(`spawned_starts_paced`); as many attempts are counted as there were starts, so that the count stays
below its limit however many attempts are allowed.
-/

namespace WafControl

namespace NodeOps

variable {σ : Type} (ops : NodeOps σ) (k : String) (options : RelayOptions)

/-- The node after so many starts of a relay. -/
def started (s : σ) : Nat → σ
  | 0 => s
  | i + 1 => (ops.start k options (started s i)).2

/-- What a start answers after so many others. -/
def answer (s : σ) (i : Nat) : Except Failure Unit :=
  (ops.start k options (ops.started k options s i)).1

/-- How many starts fail before the first one that succeeds; all `n`, if none of them does. -/
def failedStarts (s : σ) (n : Nat) : Nat :=
  ((List.range n).map (ops.answer k options s)).findIdx Except.isOk

theorem started_succ (s : σ) (i : Nat) :
    ops.started k options s (i + 1) = ops.started k options (ops.start k options s).2 i := by
  induction i with
  | zero => rfl
  | succ i ih => exact congrArg (fun n => (ops.start k options n).2) ih

theorem answer_succ (s : σ) (i : Nat) :
    ops.answer k options s (i + 1) = ops.answer k options (ops.start k options s).2 i :=
  congrArg (fun n => (ops.start k options n).1) (ops.started_succ k options s i)

theorem failedStarts_succ (s : σ) (n : Nat) :
    ops.failedStarts k options s (n + 1) =
      bif (ops.start k options s).1.isOk then 0
      else ops.failedStarts k options (ops.start k options s).2 n + 1 := by
  have hrest : ops.answer k options s ∘ Nat.succ = ops.answer k options (ops.start k options s).2 :=
    funext fun i => ops.answer_succ k options s i
  rw [failedStarts, List.range_succ_eq_map, List.map_cons, List.map_map, hrest, List.findIdx_cons]
  rfl

theorem isOk_eq_true_iff {answer : Except Failure Unit} : answer.isOk = true ↔ answer = .ok () := by
  cases answer with
  | ok u => exact ⟨fun _ => rfl, fun _ => rfl⟩
  | error e => exact ⟨nofun, nofun⟩

theorem failedStarts_lt_iff (s : σ) (n : Nat) :
    ops.failedStarts k options s n < n ↔ ∃ i < n, ops.answer k options s i = .ok () := by
  have h : ops.failedStarts k options s n < ((List.range n).map (ops.answer k options s)).length ↔
      ∃ x ∈ (List.range n).map (ops.answer k options s), x.isOk = true := List.findIdx_lt_length
  simp only [List.length_map, List.length_range, List.mem_map, List.mem_range,
    isOk_eq_true_iff] at h
  rw [h]
  constructor
  · rintro ⟨_, ⟨i, hi, rfl⟩, hok⟩
    exact ⟨i, hi, hok⟩
  · rintro ⟨i, hi, hok⟩
    exact ⟨_, ⟨i, hi, rfl⟩, hok⟩

theorem answer_failedStarts {s : σ} {n : Nat} (h : ops.failedStarts k options s n < n) :
    ops.answer k options s (ops.failedStarts k options s n) = .ok () := by
  have hlt : ((List.range n).map (ops.answer k options s)).findIdx Except.isOk <
      ((List.range n).map (ops.answer k options s)).length := by
    rwa [List.length_map, List.length_range]
  have hok := isOk_eq_true_iff.1 (List.findIdx_getElem (w := hlt))
  rw [List.getElem_map, List.getElem_range] at hok
  exact hok

/-- The last of the starts that are made succeeds if any one would that is allowed. -/
theorem answer_last_eq_ok_iff (s : σ) {n : Nat} (hn : 0 < n) :
    ops.answer k options s (min (ops.failedStarts k options s n) (n - 1)) = .ok () ↔
      ∃ i < n, ops.answer k options s i = .ok () := by
  constructor
  · intro h
    exact ⟨_, by omega, h⟩
  · intro h
    have hlt := (ops.failedStarts_lt_iff k options s n).2 h
    rw [Nat.min_eq_left (by omega)]
    exact ops.answer_failedStarts k options hlt

theorem last_eq_of_error {s : σ} {n : Nat} {why : Failure}
    (h : ops.answer k options s (min (ops.failedStarts k options s n) (n - 1)) = .error why) :
    min (ops.failedStarts k options s n) (n - 1) = n - 1 := by
  refine Nat.min_eq_right (Nat.le_of_not_lt fun hlt => ?_)
  rw [Nat.min_eq_left (by omega), ops.answer_failedStarts k options (by omega)] at h
  cases h

/-- Being observed changes no answer. -/
theorem started_observed (s : σ) (i : Nat) :
    ops.observed.started k options ⟨s, []⟩ i =
      ⟨ops.started k options s i,
        (List.range i).map fun j => ⟨.start k options, ops.started k options s (j + 1)⟩⟩ := by
  induction i with
  | zero => rfl
  | succ i ih =>
      rw [started, ih, List.range_succ, List.map_append]
      rfl

theorem failedStarts_observed (s : σ) (n : Nat) :
    ops.observed.failedStarts k options ⟨s, []⟩ n = ops.failedStarts k options s n := by
  have h : ops.observed.answer k options ⟨s, []⟩ = ops.answer k options s := by
    funext i
    rw [answer, started_observed]
    rfl
  rw [failedStarts, failedStarts, h]

end NodeOps

/-- What is done about the start of a spawned relay. -/
inductive StartAct where
  /-- A start is made, with so many attempts counted before it. -/
  | start (attempts : Nat)
  | wait (delay : Duration)
  deriving DecidableEq, Repr

namespace RelayController

variable {σ : Type}

/-- What is done about the start of a spawned relay until it succeeds or is given up. -/
def startActs (c : RelayController) (ops : NodeOps σ) (p : PendingStart) (s : σ) :
    List StartAct :=
  match _h : c.tryStart ops p s with
  | (.finished _, _) => [.start p.retry.attempts]
  | (.waiting d q, s) => .start p.retry.attempts :: .wait d :: c.startActs ops q s
termination_by c.startAttempts.toNat - p.retry.attempts
decreasing_by
  have := attempts_lt_of_waiting _h
  omega

variable {c : RelayController} {ops : NodeOps σ} {p q : PendingStart} {s s' : σ}

theorem startActs_of_finished {outcome : Except Failure Unit}
    (h : c.tryStart ops p s = (.finished outcome, s')) :
    c.startActs ops p s = [.start p.retry.attempts] := by
  rw [startActs]
  split
  · rfl
  · rename_i h'
    cases h.symm.trans h'

theorem startActs_of_waiting {d : Duration} (h : c.tryStart ops p s = (.waiting d q, s')) :
    c.startActs ops p s = .start p.retry.attempts :: .wait d :: c.startActs ops q s' := by
  rw [startActs]
  split
  · rename_i h'
    cases h.symm.trans h'
  · rename_i h'
    cases h.symm.trans h'
    rfl

/-- Starts with so many waits between them, the first after `a` attempts. -/
def pacedActs (policy : Backoff) : Nat → Nat → List StartAct
  | a, 0 => [.start a]
  | a, waits + 1 => .start a :: .wait (policy.delay a) :: pacedActs policy (a + 1) waits

theorem pacedActs_eq (policy : Backoff) (a waits : Nat) :
    pacedActs policy a waits =
      (List.range' a waits).flatMap (fun i => [.start i, .wait (policy.delay i)]) ++
        [.start (a + waits)] := by
  induction waits generalizing a with
  | zero => rfl
  | succ waits ih =>
      rw [pacedActs, ih, List.range'_succ, List.flatMap_cons, Nat.add_right_comm a 1 waits]
      rfl

/-- What the last start answers is the outcome, with its context if it is a failure. -/
def concluded (answer : Except Failure Unit) : Except Failure Unit :=
  answer.mapError fun e => e.within "relay did not accept StartRelay"

section Tried

variable {k : String} {options : RelayOptions} {policy : Backoff} {a : Nat}

/-- The start that succeeds is the last one. -/
theorem tryStart_of_ok {u : Unit} (h : (ops.start k options s).1 = .ok u) (retry : Retry) :
    c.tryStart ops ⟨k, options, retry⟩ s =
      (.finished (concluded (ops.start k options s).1), (ops.start k options s).2) := by
  unfold tryStart
  split
  · rename_i hs
    rw [hs]
    rfl
  · rename_i hs
    rw [hs] at h
    cases h

theorem tryStart_of_error {e : Failure} (h : (ops.start k options s).1 = .error e)
    (retry : Retry) :
    c.tryStart ops ⟨k, options, retry⟩ s =
      (if retry.attempts + 1 < c.startAttempts.toNat then
        .waiting retry.delay ⟨k, options, retry.advance⟩
      else .finished (concluded (ops.start k options s).1), (ops.start k options s).2) := by
  unfold tryStart
  split
  · rename_i hs
    rw [hs] at h
    cases h
  · rename_i hs
    rw [hs]
    split
    · rfl
    · rfl

/-- So is the one for which the last attempt is needed. -/
theorem tryStart_of_exhausted {retry : Retry}
    (h : ¬ retry.attempts + 1 < c.startAttempts.toNat) :
    c.tryStart ops ⟨k, options, retry⟩ s =
      (.finished (concluded (ops.start k options s).1), (ops.start k options s).2) := by
  cases ha : (ops.start k options s).1 with
  | ok u => rw [tryStart_of_ok ha, ha]
  | error e => rw [tryStart_of_error ha, if_neg h, ha]

/-- As long as attempts are left, they are counted one by one. -/
theorem advance_of_lt (h : a + 1 < c.startAttempts.toNat) :
    (⟨policy, a⟩ : Retry).advance = ⟨policy, a + 1⟩ := by
  have hlt := c.startAttempts.toNat_lt
  simp only [Retry.advance, Retry.maxAttempts, UInt32.size]
  congr 1
  omega

theorem startSpawned_of_last
    (h : c.tryStart ops ⟨k, options, ⟨policy, a⟩⟩ s =
      (.finished (concluded (ops.start k options s).1), (ops.start k options s).2)) :
    c.startSpawned ops ⟨k, options, ⟨policy, a⟩⟩ s =
        (concluded (ops.answer k options s 0), [], ops.started k options s 1) ∧
      c.startActs ops ⟨k, options, ⟨policy, a⟩⟩ s = pacedActs policy a 0 :=
  ⟨startSpawned_of_finished h, startActs_of_finished h⟩

variable (ops k options policy) in
/-- The starts after `a` attempts, with `m` attempts left after the next one. The induction is on
`m`; a start that succeeds ends it early. -/
theorem startSpawned_eq (m : Nat) (hm : a + m + 1 = c.startAttempts.toNat) (s : σ) :
    let waits := min (ops.failedStarts k options s (m + 1)) m
    c.startSpawned ops ⟨k, options, ⟨policy, a⟩⟩ s =
        (concluded (ops.answer k options s waits), (List.range' a waits).map policy.delay,
          ops.started k options s (waits + 1)) ∧
      c.startActs ops ⟨k, options, ⟨policy, a⟩⟩ s = pacedActs policy a waits := by
  intro waits
  induction m generalizing a s with
  | zero =>
      have hwaits : waits = 0 := Nat.min_zero _
      rw [hwaits]
      exact startSpawned_of_last (tryStart_of_exhausted (by simp only; omega))
  | succ m ih =>
      cases h : (ops.start k options s).1 with
      | ok u =>
          have hwaits : waits = 0 := by
            simp only [waits, ops.failedStarts_succ, h]
            exact Nat.zero_min _
          rw [hwaits]
          exact startSpawned_of_last (tryStart_of_ok h _)
      | error e =>
          obtain ⟨hspawned, hacts⟩ := ih (a := a + 1) (by omega) (ops.start k options s).2
          have hlt : a + 1 < c.startAttempts.toNat := by omega
          have htry := tryStart_of_error (c := c) h ⟨policy, a⟩
          rw [if_pos hlt, advance_of_lt hlt] at htry
          have hwaits : waits =
              min (ops.failedStarts k options (ops.start k options s).2 (m + 1)) m + 1 := by
            simp only [waits, ops.failedStarts_succ, h]
            exact Nat.add_min_add_right _ _ _
          rw [hwaits]
          generalize min (ops.failedStarts k options (ops.start k options s).2 (m + 1)) m = rest
            at hspawned hacts
          constructor
          · rw [startSpawned_of_waiting htry, hspawned, ops.answer_succ,
              ops.started_succ k options s (rest + 1)]
            rfl
          · rw [startActs_of_waiting htry, hacts]
            rfl

end Tried

theorem concluded_eq_ok_iff {answer : Except Failure Unit} :
    concluded answer = .ok () ↔ answer = .ok () := by
  cases answer with
  | ok u => exact ⟨fun _ => rfl, fun _ => rfl⟩
  | error e => exact ⟨nofun, nofun⟩

theorem concluded_eq_error {answer : Except Failure Unit} {e : Failure}
    (h : concluded answer = .error e) :
    ∃ why, answer = .error why ∧ e = why.within "relay did not accept StartRelay" := by
  cases answer with
  | ok u => cases h
  | error why =>
      cases h
      exact ⟨why, rfl, rfl⟩

theorem startAttempts_withStart (c : RelayController) (policy : Backoff) (attempts : UInt32) :
    (c.withStart policy attempts).startAttempts.toNat = max attempts.toNat 1 := by
  show (if attempts ≤ 1 then 1 else attempts).toNat = max attempts.toNat 1
  split
  · rename_i h
    exact (Nat.max_eq_right (UInt32.le_iff_toNat_le.1 h)).symm
  · rename_i h
    exact (Nat.max_eq_left (Nat.le_of_not_le (mt UInt32.le_iff_toNat_le.2 h))).symm

/-- What the starts of a spawned relay come to, with all attempts left. -/
theorem startSpawned_withStart (c : RelayController) (ops : NodeOps σ) (policy : Backoff)
    (attempts : UInt32) (k : String) (options : RelayOptions) (s : σ) :
    let n := max attempts.toNat 1
    let waits := min (ops.failedStarts k options s n) (n - 1)
    (c.withStart policy attempts).startSpawned ops ⟨k, options, policy.retry⟩ s =
        (concluded (ops.answer k options s waits), (List.range waits).map policy.delay,
          ops.started k options s (waits + 1)) ∧
      (c.withStart policy attempts).startActs ops ⟨k, options, policy.retry⟩ s =
        ((List.range waits).flatMap fun i => [.start i, .wait (policy.delay i)]) ++
          [.start waits] := by
  intro n waits
  have hn : 0 + (n - 1) + 1 = (c.withStart policy attempts).startAttempts.toNat := by
    rw [startAttempts_withStart]
    omega
  obtain ⟨hspawned, hacts⟩ := startSpawned_eq ops k options policy (n - 1) hn s
  rw [Nat.sub_add_cancel (Nat.le_max_right _ _)] at hspawned hacts
  rw [pacedActs_eq, Nat.zero_add] at hacts
  rw [List.range_eq_range']
  exact ⟨hspawned, hacts⟩

theorem le_of_start_mem {policy : Backoff} {waits counted : Nat}
    (h : .start counted ∈ ((List.range waits).flatMap fun i =>
      [StartAct.start i, .wait (policy.delay i)]) ++ [.start waits]) : counted ≤ waits := by
  simp only [List.mem_append, List.mem_flatMap, List.mem_range, List.mem_cons,
    StartAct.start.injEq, reduceCtorEq, List.not_mem_nil, or_false] at h
  rcases h with ⟨i, hi, rfl⟩ | rfl
  · exact Nat.le_of_lt hi
  · exact Nat.le_refl _

/-- However the node answers, a spawned relay is started until a start succeeds, at most as often as
attempts are allowed. Between two starts the next delay of the policy is waited out, and there is no
wait after the last one. The outcome is a success exactly if a start succeeds that is allowed, and
otherwise the failure of the last one. One more attempt can always be counted. -/
theorem spawned_starts_paced (c : RelayController) (ops : NodeOps σ) (policy : Backoff)
    (attempts : UInt32) (k : String) (options : RelayOptions) (s : σ) :
    let driver := c.withStart policy attempts
    let p : PendingStart := ⟨k, options, policy.retry⟩
    let n := max attempts.toNat 1
    let starts := min (ops.failedStarts k options s n + 1) n
    let acts := driver.startActs ops p s
    (driver.startSpawned ops.observed p ⟨s, []⟩).2.2.events =
        (List.range starts).map (fun i => ⟨.start k options, ops.started k options s (i + 1)⟩) ∧
      ((driver.startSpawned ops p s).1 = .ok () ↔ ∃ i < n, ops.answer k options s i = .ok ()) ∧
      (∀ e, (driver.startSpawned ops p s).1 = .error e → ∃ why,
        ops.answer k options s (n - 1) = .error why ∧
          e = why.within "relay did not accept StartRelay") ∧
      (driver.startSpawned ops p s).2.1 = (List.range (starts - 1)).map policy.delay ∧
      acts = ((List.range (starts - 1)).flatMap fun i => [.start i, .wait (policy.delay i)]) ++
        [.start (starts - 1)] ∧
      ∀ counted, .start counted ∈ acts → counted + 1 < UInt32.size := by
  intro driver p n starts acts
  have hn : 0 < n := Nat.le_max_right _ _
  obtain ⟨hspawned, hacts⟩ := startSpawned_withStart c ops policy attempts k options s
  obtain ⟨hobserved, -⟩ := startSpawned_withStart c ops.observed policy attempts k options ⟨s, []⟩
  rw [ops.failedStarts_observed, ops.started_observed] at hobserved
  have hstarts : starts = min (ops.failedStarts k options s n) (n - 1) + 1 := by omega
  have hwaits : starts - 1 = min (ops.failedStarts k options s n) (n - 1) := by omega
  rw [← hwaits] at hacts
  refine ⟨?_, ?_, fun e he => ?_, ?_, hacts, fun counted hc => ?_⟩
  · rw [hstarts]
    exact congrArg (fun r => r.2.2.events) hobserved
  · rw [hspawned, concluded_eq_ok_iff]
    exact ops.answer_last_eq_ok_iff k options s hn
  · rw [hspawned] at he
    obtain ⟨why, hwhy, rfl⟩ := concluded_eq_error he
    exact ⟨why, ops.last_eq_of_error k options hwhy ▸ hwhy, rfl⟩
  · rw [hwaits, hspawned]
  · rw [show acts = _ from hacts] at hc
    have hle := le_of_start_mem hc
    have hlt := attempts.toNat_lt
    rw [UInt32.size]
    omega

/-- The waits of a reconciliation that spawns a relay are those of the relay's starts. -/
theorem reconcile_of_spawned {c : RelayController} {ops : NodeOps σ} {call : RelayCall}
    {options : RelayOptions} {inst : RelayInstance} {s : Supervised σ} {n n' n'' : σ}
    (hi : call.intent = .present options) (hl : c.locate ops call.pod s.node = (.ok inst, n))
    (hp : ops.probe inst.netns n = (.absent, n')) (hs : ops.spawn inst n' = (.ok (), n'')) :
    let starts := c.startSpawned ops ⟨inst.netns, options, c.startBackoff.retry⟩ n''
    (c.reconcile ops call s).1 = starts.1 ∧ (c.reconcile ops call s).2.1 = starts.2.1 ∧
      (c.reconcile ops call s).2.2.node = starts.2.2 := by
  intro starts
  have hbegin : c.begin ops call s = record .present
      ((c.tryStart ops ⟨inst.netns, options, c.startBackoff.retry⟩ n'').1,
        ⟨(c.tryStart ops ⟨inst.netns, options, c.startBackoff.retry⟩ n'').2,
          s.counts.probed .absent⟩) := by
    simp only [begin, hl, probe, hp, hi, present, hs, Intent.action]
  rw [reconcile, hbegin]
  cases ht : c.tryStart ops ⟨inst.netns, options, c.startBackoff.retry⟩ n'' with
  | mk progress n₁ =>
      cases progress with
      | finished outcome =>
          have hstarts : starts = (outcome, [], n₁) := startSpawned_of_finished ht
          rw [hstarts]
          exact ⟨rfl, rfl, rfl⟩
      | waiting d q =>
          have hstarts := startSpawned_of_waiting ht
          simp only [starts, hstarts]
          exact ⟨rfl, rfl, rfl⟩

end RelayController

end WafControl
