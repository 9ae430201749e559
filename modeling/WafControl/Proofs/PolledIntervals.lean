import WafControl.Proofs.GatewayTask
import WafControl.Proofs.GivenOptions
import WafControl.Proofs.PollTimes

/-!
# Which poll intervals poll

A store is followed at an interval while it changes, fails and takes its time. At every positive
interval the polls come one after the other, whatever the store answers, and every list that the
store gave for a new token is handed over once, in order (`Polls`). The command line accepts every
number of 64 bits, zero among them, and at zero following the store fails as soon as time passes
(`interval_polls_iff`).
-/

namespace WafControl

/-- A store that is followed changes, or time passes. -/
inductive PollMove where
  | change (ch : StoreChange)
  | advance (ms : Nat)
  deriving DecidableEq, Repr

/-- A store followed in time. The polls are on record, latest first, and the results in order. -/
structure PollRun where
  followed : Followed
  polls : List TimedPoll := []
  results : List (Nat × PollResult) := []

namespace PollRun

/-- A store that is going to be followed from a time on. -/
def start (first : Store) (time : Nat) : PollRun := { followed := { store := first, now := time } }

def move (lists : Filter) (interval : Nat) (r : PollRun) : PollMove → Except TickerFault PollRun
  | .change ch =>
    .ok { r with followed := { r.followed with store := r.followed.store.change ch } }
  | .advance ms => do
    let l ← r.followed.loopFor lists interval
    let (results, followed) ← r.followed.advance lists interval ms
    .ok
      { followed
        polls := l.record r.followed.store r.followed.now (r.followed.now + ms) r.polls
        results := r.results ++ results }

def run (lists : Filter) (interval : Nat) (r : PollRun) (moves : List PollMove) :
    Except TickerFault PollRun :=
  moves.foldlM (move lists interval) r

/-- The lists handed over, in order. -/
def delivered (r : PollRun) : List (List Protection) := r.results.filterMap fun x => x.2.listing?

/-- A store has been polled at an interval, since it was `first` at the time `start`. -/
structure PolledAt (lists : Filter) (interval start : Nat) (first : Store) (r : PollRun) :
    Prop where
  paced : TimedPoll.Paced interval start r.polls
  current : TimedPoll.Current interval start r.followed.now r.polls
  /-- All questions for the token, and the filters of all listings, are those of the polls. -/
  versionCalls : r.followed.store.versionCalls = first.versionCalls + r.polls.length
  recorded : r.followed.store.recorded =
    List.replicate ((TimedPoll.endings r.polls).countP fun p => p.listing.isSome) lists ++
      first.recorded
  /-- A list was asked for exactly where the token was not that of the list before. -/
  prompt : PastPoll.Prompt (TimedPoll.endings r.polls)
  results : r.results = TimedPoll.results r.polls
  /-- Each list that the store gave for such a token is handed over once, in order. -/
  delivered : r.delivered = (PastPoll.heard (TimedPoll.endings r.polls)).reverse

/-- There is a loop, and the record of its polls is true. -/
def Kept (lists : Filter) (interval start : Nat) (first : Store) (r : PollRun) : Prop :=
  ∃ l, r.followed.loopFor lists interval = .ok l ∧ r.followed.now ≤ l.nextTime ∧
    PollLoop.Recorded lists interval start first l r.followed.store r.followed.now r.polls r.results

variable {lists : Filter} {interval time : Nat} {first : Store} {r : PollRun}

theorem kept_start (lists : Filter) (time : Nat) (first : Store) (h : 0 < interval) :
    (start first time).Kept lists interval time first := by
  refine ⟨_, Followed.loopFor_of_pos rfl h, Nat.le_refl _, ?_⟩
  exact ⟨PollLoop.timely_start lists time h, PollLoop.answered_start lists first _, rfl⟩

theorem move_advance {l : PollLoop} (hl : r.followed.loopFor lists interval = .ok l) (ms : Nat) :
    let ran := l.run r.followed.store r.followed.now (r.followed.now + ms)
    r.move lists interval (.advance ms) =
      .ok
        { followed := { store := ran.2.2, now := r.followed.now + ms, loop := some ran.2.1 }
          polls := l.record r.followed.store r.followed.now (r.followed.now + ms) r.polls
          results := r.results ++ ran.1 } := by
  rw [move, Followed.advance_of_loopFor hl, hl]
  rfl

/-- Where the record is true, there is a next step, and the record is true after it. -/
theorem Kept.move (h : r.Kept lists interval time first) (m : PollMove) :
    ∃ next, r.move lists interval m = .ok next ∧ next.Kept lists interval time first := by
  obtain ⟨l, hl, hnow, hr⟩ := h
  cases m with
  | change ch =>
      -- a change of the store leaves its record of what it was asked
      exact ⟨_, rfl, l, hl, hnow, hr.timely, { hr.answered with }, hr.results⟩
  | advance ms =>
      obtain ⟨hran, hnext⟩ := hr.run (Nat.le_add_right r.followed.now ms)
      exact ⟨_, move_advance hl ms, _, Followed.loopFor_of_loop rfl, hnext, hran⟩

theorem Kept.run (h : r.Kept lists interval time first) (moves : List PollMove) :
    ∃ last, r.run lists interval moves = .ok last ∧ last.Kept lists interval time first :=
  exists_ok_of_foldlM (fun _ m hkept => hkept.move m) moves h

theorem Kept.polledAt (h : r.Kept lists interval time first) :
    r.PolledAt lists interval time first := by
  obtain ⟨l, hl, hnow, htimely, hanswered, hresults⟩ := h
  have hended := hanswered.ended
  refine
    { paced := htimely.paced
      current := htimely.stands.current.of_le hnow
      versionCalls := hanswered.versionCalls
      recorded := hanswered.recorded
      prompt := PastPoll.prompt_of_chained hanswered.chained hended
      results := hresults.symm
      delivered := ?_ }
  rw [PastPoll.heard_eq_of_chained hanswered.chained hended, delivered, ← hresults,
    TimedPoll.listings_results]
  exact congrArg List.reverse (List.filterMap_congr fun p hp => (hended p hp).result_listing?)

/-- Without a positive period, a store that is not followed yet never will be: it still can change,
and the fault comes as soon as time passes. -/
theorem run_zero_eq_error_iff (hnone : r.followed.loop = none) (moves : List PollMove) :
    r.run lists 0 moves = .error .zeroPeriod ↔ ∃ ms, .advance ms ∈ moves := by
  induction moves generalizing r with
  | nil => exact iff_of_false nofun nofun
  | cons m moves ih =>
      rw [run, List.foldlM_cons]
      cases m with
      | change ch =>
          have hrest := ih (r := { r with
            followed := { r.followed with store := r.followed.store.change ch } }) hnone
          simp only [List.mem_cons, reduceCtorEq, false_or]
          exact hrest
      | advance ms =>
          have hmove : r.move lists 0 (.advance ms) = .error .zeroPeriod := by
            rw [move, Followed.loopFor_zero hnone]
            rfl
          rw [hmove]
          exact iff_of_true rfl ⟨ms, List.mem_cons_self⟩

end PollRun

/-- Whatever a store says and does, following it never fails, and it is polled at the interval. -/
def Polls (interval : Nat) : Prop :=
  ∀ lists first start moves, ∃ r, (PollRun.start first start).run lists interval moves = .ok r ∧
    r.PolledAt lists interval start first

/-- Whatever a store says and does, following it fails as soon as time passes. -/
def Fails (interval : Nat) : Prop :=
  ∀ lists first start moves,
    (PollRun.start first start).run lists interval moves = .error .zeroPeriod ↔
      ∃ ms, .advance ms ∈ moves

theorem polls_of_pos {interval : Nat} (h : 0 < interval) : Polls interval := by
  intro lists first start moves
  obtain ⟨r, hr, hkept⟩ := (PollRun.kept_start lists start first h).run moves
  exact ⟨r, hr, hkept.polledAt⟩

theorem fails_zero : Fails 0 := fun _ _ _ moves => PollRun.run_zero_eq_error_iff rfl moves

theorem not_polls_of_fails {interval : Nat} (hf : Fails interval) : ¬Polls interval := by
  intro hp
  obtain ⟨r, hr, -⟩ := hp .all {} 0 [.advance 1]
  have hfault := (hf .all {} 0 [.advance 1]).2 ⟨1, List.mem_singleton_self _⟩
  cases hr.symm.trans hfault

/-- The command line accepts every number of 64 bits as the poll interval. A store is polled at all
of them but zero, and following it fails at zero. -/
theorem interval_polls_iff (interval : Nat) :
    (Settings.Accepted interval ↔ interval < UInt64.size) ∧ (Polls interval ↔ interval ≠ 0) ∧
      (Fails interval ↔ interval = 0) := by
  have hpolls : interval ≠ 0 → Polls interval := fun h => polls_of_pos (Nat.pos_of_ne_zero h)
  have hfails : interval = 0 → Fails interval := fun h => h ▸ fails_zero
  refine ⟨Settings.accepted_iff interval, ⟨fun h h0 => ?_, hpolls⟩, ⟨fun h => ?_, hfails⟩⟩
  · exact not_polls_of_fails (hfails h0) h
  · by_contra hne
    exact not_polls_of_fails h (hpolls hne)

/-- An interval of zero is accepted, and a store that has something to tell is not polled: following
it fails when the first half second passes. -/
theorem zero_interval_fails :
    let words := ["--relay-disabled", "--poll-interval-ms", "0"]
    let s : Settings := { relayDisabled := true, pollIntervalMs := 0 }
    let first : Store :=
      { version := "1", protections := [Protection.guarding "shop" "shop.blue.svc" 31000] }
    Settings.ofCommandLine words {} = .ok s ∧ s.refusal? = none ∧
      (PollRun.start first 0).run .enabled s.pollIntervalMs [.advance 500, .advance 1000] =
        .error .zeroPeriod ∧
      TickerFault.zeroPeriod.message = "`period` must be non-zero." ∧ ¬Polls s.pollIntervalMs := by
  intro words s first
  have hwords : words = Settings.pollingEvery 0 := rfl
  have hs : Settings.ofCommandLine words {} = .ok s := by
    rw [hwords]
    exact Settings.ofCommandLine_pollingEvery (by decide)
  exact ⟨hs, Settings.refusal?_pollingEvery 0, rfl, rfl, not_polls_of_fails fails_zero⟩

end WafControl
