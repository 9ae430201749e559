import WafControl.Proofs.PolledStore

/-!
# When a loop polls

Every poll of a loop is put on record with the time at which it asked for the token, the time that
the store took, and how it ended. Whatever the store answers: the first poll is at once, the next
one an interval after the last, or as soon as the last has ended (`TimedPoll.Precedes`), and none is
late (`TimedPoll.Current`). What holds while one thing is done (`Recorded.fire`) holds of a run
(`Recorded.run`).
-/

namespace WafControl

namespace Poller

variable (p : Poller) (s : Store)

/-- How a poll ends whose question for the token is answered now. -/
def ending : PastPoll :=
  match s.answerVersion with
  | .error e => ⟨p.lastSeen, .error e, none, .failed e, p.lastSeen⟩
  | .ok token =>
    if p.moved token then
      let answer := s.answerList p.filter
      let outcome := p.listed token answer
      ⟨p.lastSeen, .ok token, some answer, outcome.1, outcome.2.lastSeen⟩
    else ⟨p.lastSeen, .ok token, none, .unchanged, p.lastSeen⟩

theorem ended_ending : (p.ending s).Ended := by
  unfold ending
  cases s.answerVersion with
  | error e => exact .unread p.lastSeen e
  | ok token =>
      by_cases hm : p.lastSeen = some token
      · have hended := PastPoll.Ended.unmoved token
        rw [← hm] at hended
        simpa [moved, hm] using hended
      · simp only [moved, bne_iff_ne, ne_eq, hm, not_false_eq_true, if_true]
        cases s.answerList p.filter with
        | error e => exact .unlisted hm e
        | ok ps => exact .listed hm ps

theorem seen_ending : (p.ending s).seen = p.lastSeen := by
  unfold ending
  cases s.answerVersion with
  | error e => rfl
  | ok token =>
      cases hm : p.moved token with
      | false => simp only [hm, Bool.false_eq_true, if_false]
      | true => simp only [hm, if_true]

/-- The store is asked for a list if one is on record, and the token on record is kept. -/
theorem afterVersion_eq :
    p.afterVersion s s.answerVersion =
      ((p.ending s).result, { p with lastSeen := (p.ending s).kept },
        if (p.ending s).listing.isSome then s.recordList p.filter else s) := by
  unfold ending
  cases s.answerVersion with
  | error e => rfl
  | ok token =>
      simp only [afterVersion]
      cases p.moved token with
      | false => rfl
      | true =>
          simp only [Store.list, if_true]
          cases s.answerList p.filter with
          | error e => rfl
          | ok ps => rfl

end Poller

/-- A poll with its times: the token was asked for at one time, and the answer comes after a wait.
It has ended once the answer is there. -/
structure TimedPoll where
  asked : Nat
  wait : Nat
  ending : Option PastPoll := none

namespace TimedPoll

/-- The result of a poll that has ended, and when it did. -/
def result? (p : TimedPoll) : Option (Nat × PollResult) :=
  p.ending.map fun e => (p.asked + p.wait, e.result)

/-- The results of the polls that have ended, in order. -/
def results (polls : List TimedPoll) : List (Nat × PollResult) := polls.reverse.filterMap result?

/-- The poll, now that it has ended. -/
def ended (e : PastPoll) (p : TimedPoll) : TimedPoll := { p with ending := some e }

/-- How the polls have ended, those that have. -/
def endings (polls : List TimedPoll) : List PastPoll := polls.filterMap ending

/-- One poll comes next after another, however that one ended: not before it, nor before the
interval is over, and as soon as both are. A ticker that is a little late makes up for it. -/
structure Precedes (interval : Nat) (p next : TimedPoll) : Prop where
  ended : p.ending.isSome
  after : p.asked + p.wait ≤ next.asked
  spaced : p.asked + interval ≤ next.asked + Ticker.tolerance
  prompt : next.asked ≤ max (p.asked + p.wait) (p.asked + interval)

/-- The polls, latest first, start at once and come one after the other. -/
def Paced (interval start : Nat) : List TimedPoll → Prop
  | [] => True
  | [p] => p.asked = start
  | next :: p :: earlier => p.Precedes interval next ∧ Paced interval start (p :: earlier)

/-- Nothing is late: neither the first poll, nor the answer to the latest, nor the one after it. -/
def Current (interval start now : Nat) : List TimedPoll → Prop
  | [] => now ≤ start
  | p :: _ => now ≤ if p.ending.isSome then p.asked + interval else p.asked + p.wait

variable {interval start : Nat} {p : TimedPoll} {earlier : List TimedPoll}

theorem Paced.ended (h : Paced interval start (p :: earlier)) (e : PastPoll) :
    Paced interval start (p.ended e :: earlier) := by
  cases earlier with
  | nil => exact h
  | cons q earlier => exact ⟨{ h.1 with }, h.2⟩

theorem results_cons (p : TimedPoll) (earlier : List TimedPoll) :
    results (p :: earlier) = results earlier ++ p.result?.toList := by
  rw [results, List.reverse_cons, List.filterMap_append]
  cases hp : p.result? with
  | none => simp [results, hp]
  | some r => simp [results, hp]

/-- The lists among the results are those that the polls ended in. -/
theorem listings_results (polls : List TimedPoll) :
    ((results polls).filterMap fun r => r.2.listing?) =
      ((endings polls).filterMap fun e => e.result.listing?).reverse := by
  rw [results, endings, List.filterMap_filterMap, List.filterMap_filterMap,
    ← List.filterMap_reverse]
  refine List.filterMap_congr fun p _ => ?_
  rw [result?, Option.bind_map]
  rfl

theorem Current.of_le {now till : Nat} {polls : List TimedPoll}
    (h : Current interval start till polls) (hle : now ≤ till) :
    Current interval start now polls := by
  cases polls with
  | nil => exact Nat.le_trans hle h
  | cons p earlier => exact Nat.le_trans hle h

end TimedPoll

namespace PollLoop

/-- The record after the loop has done what is due. -/
def noted (l : PollLoop) (s : Store) (now : Nat) (polls : List TimedPoll) : List TimedPoll :=
  match l.answerAt with
  | some _ => polls.modifyHead (TimedPoll.ended (l.poller.ending s))
  | none =>
    { asked := now
      wait := s.latency
      ending := if s.latency = 0 then some (l.poller.ending s) else none } :: polls

/-- The record after the loop has run. -/
def record (l : PollLoop) (s : Store) (now till : Nat) (polls : List TimedPoll) : List TimedPoll :=
  if _h : l.nextTime < till then
    let time := max now l.nextTime
    let step := l.fire s time
    step.2.1.record step.2.2 time till (l.noted s time polls)
  else polls
termination_by l.pending till
decreasing_by exact pending_fire_lt l s _ till (by assumption)

/-- The next tick of a loop whose latest poll began at a time. -/
structure NextTick (interval asked : Nat) (l : PollLoop) : Prop where
  spaced : asked + interval ≤ l.ticker.deadline + Ticker.tolerance
  prompt : l.ticker.deadline ≤ asked + interval

/-- Where a loop stands after its polls. -/
inductive Stands (interval start now : Nat) (l : PollLoop) : List TimedPoll → Prop
  | fresh (idle : l.answerAt = none) (first : l.ticker.deadline = start) (early : now ≤ start) :
      Stands interval start now l []
  | waiting {p : TimedPoll} {earlier : List TimedPoll} (next : l.NextTick interval p.asked)
      (awaited : l.answerAt = some (p.asked + p.wait)) (underway : p.ending = none)
      (early : now ≤ p.asked + p.wait) : Stands interval start now l (p :: earlier)
  | resting {p : TimedPoll} {earlier : List TimedPoll} (next : l.NextTick interval p.asked)
      (idle : l.answerAt = none) (ended : p.ending.isSome) (after : p.asked + p.wait ≤ now)
      (early : now ≤ max (p.asked + p.wait) l.ticker.deadline) :
      Stands interval start now l (p :: earlier)

/-- The polls of a loop are in time. -/
structure Timely (interval start now : Nat) (l : PollLoop) (polls : List TimedPoll) : Prop where
  period : l.ticker.period = interval
  paced : TimedPoll.Paced interval start polls
  stands : l.Stands interval start now polls

/-- The record of a loop is true, and holds all its polls since a store was first asked. -/
structure Answered (lists : Filter) (first s : Store) (l : PollLoop) (polls : List TimedPoll) :
    Prop where
  filter : l.poller.filter = lists
  ended : ∀ p ∈ TimedPoll.endings polls, p.Ended
  known : l.poller.lastSeen = PastPoll.knownToken (TimedPoll.endings polls)
  chained : PastPoll.Chained (TimedPoll.endings polls)
  versionCalls : s.versionCalls = first.versionCalls + polls.length
  recorded : s.recorded =
    List.replicate ((TimedPoll.endings polls).countP fun p => p.listing.isSome) lists ++
      first.recorded

variable {filter : Filter} {interval start now : Nat} {first s : Store} {l : PollLoop}
  {polls : List TimedPoll}

theorem timely_start (filter : Filter) (start : Nat) (h : 0 < interval) :
    Timely interval start start { poller := { filter }, ticker := ⟨interval, start, h⟩ } [] where
  period := rfl
  paced := trivial
  stands := .fresh rfl rfl (Nat.le_refl _)

theorem answered_start (filter : Filter) (first : Store) (ticker : Ticker) :
    Answered filter first first { poller := { filter }, ticker } [] where
  filter := rfl
  ended := fun _ hp => absurd hp List.not_mem_nil
  known := rfl
  chained := trivial
  versionCalls := rfl
  recorded := rfl

/-! ### A poll begins -/

/-- The loop after a tick, when the answer is to come at a time. -/
def asking (l : PollLoop) (now : Nat) (answerAt : Option Nat) : PollLoop :=
  { l with ticker := l.ticker.tick now, answerAt }

/-- A tick that is taken when it is due, or late. -/
theorem nextTick_asking (hdue : l.ticker.deadline ≤ now) (answerAt : Option Nat) :
    NextTick l.ticker.period now (l.asking now answerAt) := by
  have htick : (l.asking now answerAt).ticker.deadline =
      if l.ticker.deadline + Ticker.tolerance < now then now + l.ticker.period
      else l.ticker.deadline + l.ticker.period := by
    unfold asking Ticker.tick
    split <;> rfl
  constructor
  · rw [htick]
    split <;> omega
  · rw [htick]
    split <;> omega

theorem Timely.ask (h : Timely interval start now l polls) (hidle : l.answerAt = none)
    (wait : Nat) :
    let time := max now l.ticker.deadline
    Timely interval start time (l.asking time (some (time + wait)))
      ({ asked := time, wait } :: polls) := by
  intro time
  have hdue : l.ticker.deadline ≤ time := Nat.le_max_right _ _
  have hnext := nextTick_asking hdue (some (time + wait))
  rw [h.period] at hnext
  have hperiod : (l.asking time (some (time + wait))).ticker.period = interval := by
    rw [asking, Ticker.tick, ← h.period]
    split <;> rfl
  refine ⟨hperiod, ?_, .waiting hnext rfl rfl (Nat.le_add_right _ _)⟩
  cases h.stands with
  | fresh idle first early =>
      have htime : time = start := by omega
      exact htime
  | waiting next awaited underway early => rw [hidle] at awaited; cases awaited
  | @resting p earlier next idle ended after early =>
      have hafter : p.asked + p.wait ≤ time := Nat.le_trans after (Nat.le_max_left _ _)
      have hspaced : p.asked + interval ≤ time + Ticker.tolerance :=
        Nat.le_trans next.spaced (Nat.add_le_add_right hdue _)
      have hprompt : time ≤ max (p.asked + p.wait) (p.asked + interval) := by
        -- nothing has happened since the poll ended, or since the tick became due
        have hnext := next.prompt
        omega
      exact ⟨⟨ended, hafter, hspaced, hprompt⟩, h.paced⟩

theorem Answered.ask (h : Answered filter first s l polls) (time wait : Nat)
    (answerAt : Option Nat) :
    Answered filter first s.askVersion (l.asking time answerAt)
      ({ asked := time, wait } :: polls) where
  filter := h.filter
  ended := h.ended
  known := h.known
  chained := h.chained
  versionCalls := congrArg (· + 1) h.versionCalls
  recorded := h.recorded

/-! ### A poll ends -/

/-- A poll whose token is being read. -/
theorem Timely.underway (h : Timely interval start now l polls) {time : Nat}
    (hawaited : l.answerAt = some time) :
    ∃ p earlier, polls = p :: earlier ∧ p.ending = none ∧ p.asked + p.wait = time ∧
      l.NextTick interval p.asked ∧ now ≤ time := by
  cases h.stands with
  | fresh idle first early => rw [hawaited] at idle; cases idle
  | resting next idle ended after early => rw [hawaited] at idle; cases idle
  | @waiting p earlier next awaited underway early =>
      rw [hawaited] at awaited
      cases awaited
      exact ⟨p, earlier, rfl, underway, rfl, next, early⟩

theorem answer_snd (l : PollLoop) (s : Store) :
    (l.answer s).2 =
      ({ l with
          poller := { l.poller with lastSeen := (l.poller.ending s).kept }
          answerAt := none },
        if (l.poller.ending s).listing.isSome then s.recordList l.poller.filter else s) := by
  rw [answer, Poller.afterVersion_eq]

theorem answer_fst (l : PollLoop) (s : Store) : (l.answer s).1 = (l.poller.ending s).result := by
  rw [answer, Poller.afterVersion_eq]

theorem Timely.answer (h : Timely interval start now l polls) {time : Nat}
    (hawaited : l.answerAt = some time) (e : PastPoll) (s : Store) :
    Timely interval start time (l.answer s).2.1 (polls.modifyHead (TimedPoll.ended e)) := by
  obtain ⟨p, earlier, rfl, -, rfl, next, -⟩ := h.underway hawaited
  rw [answer_snd]
  exact ⟨h.period, h.paced.ended e,
    .resting ⟨next.spaced, next.prompt⟩ rfl rfl (Nat.le_refl _) (Nat.le_max_left _ _)⟩

theorem Answered.answer (h : Answered filter first s l polls)
    (hunderway : ∃ p earlier, polls = p :: earlier ∧ p.ending = none) :
    Answered filter first (l.answer s).2.2 (l.answer s).2.1
      (polls.modifyHead (TimedPoll.ended (l.poller.ending s))) := by
  let e := l.poller.ending s
  obtain ⟨p, earlier, rfl, hp⟩ := hunderway
  have hbefore : TimedPoll.endings (p :: earlier) = TimedPoll.endings earlier :=
    List.filterMap_cons_none hp
  have hafter : TimedPoll.endings ((p :: earlier).modifyHead (TimedPoll.ended e)) =
      e :: TimedPoll.endings earlier := rfl
  obtain ⟨hfilter, hended, hknown, hchained, hcalls, hrecorded⟩ := h
  rw [hbefore] at hended hknown hchained hrecorded
  have hseen : e.seen = PastPoll.knownToken (TimedPoll.endings earlier) :=
    (l.poller.seen_ending s).trans hknown
  have hending : e.Ended := l.poller.ended_ending s
  rw [answer_snd]
  refine ⟨hfilter, ?_, ?_, ?_, ?_, ?_⟩
  · rw [hafter]
    exact List.forall_mem_cons.2 ⟨hending, hended⟩
  · rw [hafter, PastPoll.knownToken_cons, ← hseen]
    exact hending.kept_eq
  · rw [hafter]
    exact ⟨hseen, hchained⟩
  · rw [List.length_modifyHead, ← hcalls]
    cases e.listing.isSome <;> rfl
  · rw [hafter, List.countP_cons]
    cases hlisting : e.listing.isSome with
    | false => exact hrecorded
    | true => exact congrArg₂ List.cons hfilter hrecorded

/-! ### What is due is done -/

theorem fire_of_awaited {time : Nat} (hl : l.answerAt = some time) :
    l.fire s now = (some (l.answer s).1, (l.answer s).2) := by
  rw [fire, hl]

theorem fire_of_idle (hl : l.answerAt = none) (h0 : s.latency ≠ 0) :
    l.fire s now = (none, l.asking now (some (now + s.latency)), s.askVersion) := by
  rw [fire, hl]
  exact if_neg h0

theorem fire_at_once (hl : l.answerAt = none) (h0 : s.latency = 0) :
    l.fire s now =
      (some ((l.asking now (some now)).answer s.askVersion).1,
        ((l.asking now (some now)).answer s.askVersion).2) := by
  rw [fire, hl]
  exact if_pos h0

theorem noted_of_awaited {time : Nat} (hl : l.answerAt = some time) :
    l.noted s now polls = polls.modifyHead (TimedPoll.ended (l.poller.ending s)) := by
  rw [noted, hl]

theorem noted_of_idle (hl : l.answerAt = none) :
    l.noted s now polls =
      { asked := now
        wait := s.latency
        ending := if s.latency = 0 then some (l.poller.ending s) else none } :: polls := by
  rw [noted, hl]

/-- A loop with its store is as the record of its polls says, and so are the results. -/
structure Recorded (lists : Filter) (interval start : Nat) (first : Store) (l : PollLoop)
    (s : Store) (now : Nat) (polls : List TimedPoll) (results : List (Nat × PollResult)) :
    Prop where
  timely : Timely interval start now l polls
  answered : Answered lists first s l polls
  results : TimedPoll.results polls = results

variable {results : List (Nat × PollResult)}

theorem Recorded.ask (h : Recorded filter interval start first l s now polls results)
    (hidle : l.answerAt = none) (wait : Nat) :
    let time := max now l.ticker.deadline
    Recorded filter interval start first (l.asking time (some (time + wait))) s.askVersion time
      ({ asked := time, wait } :: polls) results := by
  intro time
  refine ⟨h.timely.ask hidle wait, h.answered.ask _ _ _, ?_⟩
  rw [TimedPoll.results_cons, h.results]
  exact List.append_nil _

theorem Recorded.answer (h : Recorded filter interval start first l s now polls results)
    {time : Nat} (hawaited : l.answerAt = some time) :
    Recorded filter interval start first (l.answer s).2.1 (l.answer s).2.2 time
      (polls.modifyHead (TimedPoll.ended (l.poller.ending s)))
      (results ++ [(time, (l.answer s).1)]) := by
  obtain ⟨p, earlier, hpolls, hp, htime, -, -⟩ := h.timely.underway hawaited
  refine ⟨h.timely.answer hawaited _ s, h.answered.answer ⟨p, earlier, hpolls, hp⟩, ?_⟩
  rw [← h.results, hpolls, List.modifyHead_cons, TimedPoll.results_cons, TimedPoll.results_cons,
    answer_fst, ← htime]
  simp [TimedPoll.result?, TimedPoll.ended, hp]

theorem Recorded.fire (h : Recorded filter interval start first l s now polls results) :
    let time := max now l.nextTime
    Recorded filter interval start first (l.fire s time).2.1 (l.fire s time).2.2 time
      (l.noted s time polls) (results ++ (l.fire s time).1.toList.map fun r => (time, r)) := by
  intro time
  cases hl : l.answerAt with
  | some awaited =>
      obtain ⟨-, -, -, -, -, -, hearly⟩ := h.timely.underway hl
      have htime : time = awaited := by
        rw [← Nat.max_eq_right hearly]
        exact congrArg (max now) (by rw [nextTime, hl]; rfl)
      rw [fire_of_awaited hl, noted_of_awaited hl, htime]
      exact h.answer hl
  | none =>
      have htime : time = max now l.ticker.deadline :=
        congrArg (max now) (by rw [nextTime, hl]; rfl)
      by_cases h0 : s.latency = 0
      · -- the answer comes at the time of the question
        have hanswer := (h.ask hl 0).answer rfl
        rw [← htime] at hanswer
        rw [fire_at_once hl h0, noted_of_idle hl, h0, if_pos rfl]
        exact hanswer
      · have hask := h.ask hl s.latency
        rw [← htime] at hask
        rw [fire_of_idle hl h0, noted_of_idle hl, if_neg h0]
        simpa using hask

/-! ### A run -/

theorem Stands.current (h : l.Stands interval start now polls) :
    TimedPoll.Current interval start l.nextTime polls := by
  cases h with
  | fresh idle first early =>
      rw [nextTime, idle, ← first]
      exact Nat.le_refl _
  | waiting next awaited underway early =>
      rw [nextTime, awaited, TimedPoll.Current, underway]
      exact Nat.le_refl _
  | resting next idle ended after early =>
      rw [nextTime, idle, TimedPoll.Current, ended]
      exact next.prompt

/-- Where a loop stands does not change until it has something to do. -/
theorem Stands.wait (h : l.Stands interval start now polls) {till : Nat} (hnow : now ≤ till)
    (htill : till ≤ l.nextTime) : l.Stands interval start till polls := by
  cases h with
  | fresh idle first early =>
      rw [nextTime, idle] at htill
      exact .fresh idle first (Nat.le_trans htill (Nat.le_of_eq first))
  | waiting next awaited underway early =>
      rw [nextTime, awaited] at htill
      exact .waiting next awaited underway htill
  | resting next idle ended after early =>
      rw [nextTime, idle] at htill
      exact .resting next idle ended (Nat.le_trans after hnow)
        (Nat.le_trans htill (Nat.le_max_right _ _))

theorem Recorded.run (h : Recorded filter interval start first l s now polls results) {till : Nat}
    (hnow : now ≤ till) :
    Recorded filter interval start first (l.run s now till).2.1 (l.run s now till).2.2 till
        (l.record s now till polls) (results ++ (l.run s now till).1) ∧
      till ≤ (l.run s now till).2.1.nextTime := by
  fun_induction PollLoop.record l s now till polls generalizing results with
  | case1 l s now polls hlt time step =>
      rename_i ih
      rw [PollLoop.run, dif_pos hlt]
      have htime : time ≤ till := Nat.max_le.2 ⟨hnow, Nat.le_of_lt hlt⟩
      have hrest := ih h.fire htime
      rw [List.append_assoc] at hrest
      exact hrest
  | case2 l s now polls hlt =>
      rw [PollLoop.run, dif_neg hlt, List.append_nil]
      have htill : till ≤ l.nextTime := Nat.le_of_not_lt hlt
      exact ⟨⟨{ h.timely with stands := h.timely.stands.wait hnow htill }, h.answered, h.results⟩,
        htill⟩

end PollLoop

end WafControl
