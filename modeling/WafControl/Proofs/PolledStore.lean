import Mathlib.Data.List.Basic
import WafControl.Proofs.AgentParts

/-!
# A poller beside its store

A poll asks the store for its token and, if the token has moved, lists the protections. Here the
store changes and fails at any point of this, and every poll that is over is put on record: the
token known before, what the store answered, the result, and the token known afterwards.

If every change of the store brings a token that it never had, a poller that knows the current token
has returned the current protections (`current_of_lastSeen`): the token that it keeps is older than
the list it returned, never newer.
-/

namespace WafControl

def PollResult.listing? : PollResult → Option (List Protection)
  | failed _ => none
  | unchanged => none
  | changed ps => some ps

/-- A poll that is over. -/
structure PastPoll where
  /-- The token known when the poll began. -/
  seen : Option String
  /-- What the store answered to the question for its token. -/
  token : Except String String
  /-- What the store answered to the listing, if it was asked for one. -/
  listing : Option (Except String (List Protection))
  result : PollResult
  /-- The token known when the poll was over. -/
  kept : Option String

namespace PastPoll

/-- One of the two calls of the poll failed. -/
def Fails (p : PastPoll) : Prop :=
  (∃ e, p.token = .error e) ∨ ∃ e, p.listing = some (.error e)

/-- The token that was read is not the one that was known. -/
def Moved (p : PastPoll) : Prop := ∃ token, p.token = .ok token ∧ p.seen ≠ some token

/-- The token and the list of a listing that succeeded. -/
def obtained? (p : PastPoll) : Option (String × List Protection) :=
  match p.token, p.listing with
  | .ok token, some (.ok ps) => some (token, ps)
  | _, _ => none

inductive Ended : PastPoll → Prop
  | unread (seen : Option String) (e : String) :
      Ended ⟨seen, .error e, none, .failed e, seen⟩
  | unmoved (token : String) :
      Ended ⟨some token, .ok token, none, .unchanged, some token⟩
  | unlisted {seen : Option String} {token : String} (moved : seen ≠ some token) (e : String) :
      Ended ⟨seen, .ok token, some (.error e), .failed e, seen⟩
  | listed {seen : Option String} {token : String} (moved : seen ≠ some token)
      (ps : List Protection) :
      Ended ⟨seen, .ok token, some (.ok ps), .changed ps, some token⟩

variable {p : PastPoll}

/-- A poll with a call that failed ends in an error, and the token known stays as it was. -/
theorem Ended.of_fails (h : p.Ended) (hf : p.Fails) :
    (∃ e, p.result = .failed e) ∧ p.kept = p.seen := by
  cases h with
  | unread seen e => exact ⟨⟨e, rfl⟩, rfl⟩
  | unlisted moved e => exact ⟨⟨e, rfl⟩, rfl⟩
  | unmoved token =>
      rcases hf with ⟨e, h⟩ | ⟨e, h⟩
      · cases h
      · cases h
  | listed moved ps =>
      rcases hf with ⟨e, h⟩ | ⟨e, h⟩
      · cases h
      · cases h

theorem Ended.listing_isSome_iff (h : p.Ended) : p.listing.isSome ↔ p.Moved := by
  cases h with
  | unread seen e => simp [Moved]
  | unmoved token => simp [Moved]
  | unlisted moved e => simp [Moved, moved]
  | listed moved ps => simp [Moved, moved]

theorem Ended.result_listing? (h : p.Ended) : p.result.listing? = p.obtained?.map Prod.snd := by
  cases h <;> rfl

/-- The token known after a poll is that of its listing, if it has listed. -/
theorem Ended.kept_eq (h : p.Ended) : p.kept = (p.obtained?.map Prod.fst).or p.seen := by
  cases h <;> rfl

/-- The token of the latest listing. -/
def knownToken (polls : List PastPoll) : Option String :=
  polls.findSome? fun p => p.obtained?.map Prod.fst

theorem knownToken_cons (p : PastPoll) (earlier : List PastPoll) :
    knownToken (p :: earlier) = (p.obtained?.map Prod.fst).or (knownToken earlier) := by
  rw [knownToken, List.findSome?_cons]
  cases p.obtained? with
  | none => rfl
  | some obtained => rfl

/-- The token known at the begin of each poll is that of the latest listing before it. -/
def Chained : List PastPoll → Prop
  | [] => True
  | p :: earlier => p.seen = knownToken earlier ∧ Chained earlier

end PastPoll

/-- A poller and the store that it polls. -/
structure PolledStore where
  store : Store
  poller : Poller
  phase : PollPhase := .idle
  /-- The polls that are over, latest first. -/
  polls : List PastPoll := []

/-- A change of the store, or a step of a poll. -/
inductive PollStep where
  | change (ch : StoreChange)
  | ask
  | answer
  | list
  deriving DecidableEq, Repr

namespace PolledStore

/-- A poller that has not polled yet. -/
def start (filter : Filter) (store : Store) : PolledStore := { store, poller := { filter } }

def change (ch : StoreChange) (s : PolledStore) : PolledStore :=
  { s with store := s.store.change ch }

def ask (s : PolledStore) : PolledStore :=
  if s.phase = .idle then { s with store := s.store.askVersion, phase := .asked } else s

/-- Puts a poll that is over on record. -/
def finish (token : Except String String) (listing : Option (Except String (List Protection)))
    (outcome : PollResult × Poller) (s : PolledStore) : Option PollResult × PolledStore :=
  (some outcome.1,
    { s with
      poller := outcome.2
      phase := .idle
      polls := ⟨s.poller.lastSeen, token, listing, outcome.1, outcome.2.lastSeen⟩ :: s.polls })

def answer (s : PolledStore) : Option PollResult × PolledStore :=
  if s.phase = .asked then
    match s.store.answerVersion with
    | .error e => s.finish (.error e) none (.failed e, s.poller)
    | .ok token =>
      if s.poller.moved token then (none, { s with phase := .listing token })
      else s.finish (.ok token) none (.unchanged, s.poller)
  else (none, s)

def list (s : PolledStore) : Option PollResult × PolledStore :=
  match s.phase with
  | .idle => (none, s)
  | .asked => (none, s)
  | .listing token =>
    -- the store may no longer have the token that was read
    let (answer, store) := s.store.list s.poller.filter
    finish (.ok token) (some answer) (s.poller.listed token answer) { s with store }

/-- Takes a step. Gives the result of the poll that it ends, if it ends one. -/
def step (s : PolledStore) : PollStep → Option PollResult × PolledStore
  | .change ch => (none, s.change ch)
  | .ask => (none, s.ask)
  | .answer => s.answer
  | .list => s.list

def run (s : PolledStore) (steps : List PollStep) : PolledStore :=
  steps.foldl (fun s a => (s.step a).2) s

/-- The lists that were returned, latest first. -/
def listings (s : PolledStore) : List (List Protection) :=
  s.polls.filterMap fun p => p.result.listing?

/-! ### What a step does -/

variable (s : PolledStore)

/-- The poller and its store once a poll is over. -/
def concluded (p : PastPoll) (store : Store) : PolledStore :=
  { store, poller := { s.poller with lastSeen := p.kept }, phase := .idle, polls := p :: s.polls }

theorem listings_concluded (p : PastPoll) (store : Store) :
    (s.concluded p store).listings = p.result.listing?.toList ++ s.listings := by
  rw [listings, concluded, List.filterMap_cons]
  cases p.result.listing? with
  | none => rfl
  | some ps => rfl

/-- The token that called for the listing under way is not the one that is known. -/
def Underway : Prop := ∀ token, s.phase = .listing token → s.poller.lastSeen ≠ some token

/-- What a step can do, and the result that it gives. -/
inductive Stepped : PollStep → Option PollResult × PolledStore → Prop
  | nothing (a : PollStep) : Stepped a (none, s)
  | changed (ch : StoreChange) : Stepped (.change ch) (none, s.change ch)
  | asked : Stepped .ask (none, { s with store := s.store.askVersion, phase := .asked })
  | listing (moved : s.poller.lastSeen ≠ some s.store.version) :
      Stepped .answer (none, { s with phase := .listing s.store.version })
  | answered {p : PastPoll} (ended : p.Ended) (seen : p.seen = s.poller.lastSeen)
      (unlisted : p.listing = none) : Stepped .answer (some p.result, s.concluded p s.store)
  | listed {p : PastPoll} {token : String} (ended : p.Ended) (seen : p.seen = s.poller.lastSeen)
      (pending : s.phase = .listing token) (read : p.token = .ok token)
      (listing : p.listing = some (s.store.answerList s.poller.filter)) :
      Stepped .list (some p.result, s.concluded p (s.store.recordList s.poller.filter))

theorem stepped_ask : Stepped s .ask (none, s.ask) := by
  unfold ask
  split
  · exact .asked
  · exact .nothing _

theorem stepped_answer : Stepped s .answer s.answer := by
  unfold answer
  split
  · rw [Store.answerVersion]
    cases s.store.versionError with
    | some e => exact .answered (.unread s.poller.lastSeen e) rfl rfl
    | none =>
        simp only
        by_cases hm : s.poller.lastSeen = some s.store.version
        · have hended := PastPoll.Ended.unmoved s.store.version
          rw [← hm] at hended
          rw [if_neg (by simp [Poller.moved, hm])]
          exact .answered hended rfl rfl
        · rw [if_pos (by simp [Poller.moved, hm])]
          exact .listing hm
  · exact .nothing _

theorem stepped_list (h : s.Underway) : Stepped s .list s.list := by
  unfold list
  split
  · exact .nothing _
  · exact .nothing _
  · rename_i token hp
    have hm := h token hp
    simp only [Store.list]
    cases hl : s.store.answerList s.poller.filter with
    | error e => exact .listed (.unlisted hm e) rfl hp rfl (congrArg some hl.symm)
    | ok ps => exact .listed (.listed hm ps) rfl hp rfl (congrArg some hl.symm)

theorem stepped_step (h : s.Underway) (a : PollStep) : Stepped s a (s.step a) := by
  cases a with
  | change ch => exact .changed ch
  | ask => exact s.stepped_ask
  | answer => exact s.stepped_answer
  | list => exact s.stepped_list h

/-- A poll that has asked for the token, and that nothing interrupts. -/
theorem run_answer (h : s.phase = .asked) :
    (s.step .answer).1.toList ++ ((s.step .answer).2.step .list).1.toList =
        [(s.poller.afterVersion s.store s.store.answerVersion).1] ∧
      ∃ p : PastPoll, p.result = (s.poller.afterVersion s.store s.store.answerVersion).1 ∧
        s.run [.answer, .list] =
          { store := (s.poller.afterVersion s.store s.store.answerVersion).2.2
            poller := (s.poller.afterVersion s.store s.store.answerVersion).2.1
            polls := p :: s.polls } := by
  simp only [run, List.foldl_cons, List.foldl_nil, step]
  rw [answer, if_pos h]
  cases s.store.answerVersion with
  | error e => exact ⟨rfl, _, rfl, rfl⟩
  | ok token =>
      simp only [Poller.afterVersion]
      cases s.poller.moved token with
      | false => exact ⟨rfl, _, rfl, rfl⟩
      | true => exact ⟨rfl, _, rfl, rfl⟩

/-- A poll that nothing interrupts is one at a single moment. -/
theorem run_poll (h : s.phase = .idle) :
    ∃ p : PastPoll, p.result = (s.poller.poll s.store).1 ∧
      s.run [.ask, .answer, .list] =
        { store := (s.poller.poll s.store).2.2
          poller := (s.poller.poll s.store).2.1
          polls := p :: s.polls } := by
  have hask : (s.step .ask).2 = { s with store := s.store.askVersion, phase := .asked } := if_pos h
  have hrun : s.run [.ask, .answer, .list] =
      run { s with store := s.store.askVersion, phase := .asked } [.answer, .list] := by
    rw [← hask]
    rfl
  rw [hrun]
  exact (run_answer { s with store := s.store.askVersion, phase := .asked } rfl).2

/-! ### What is on record -/

/-- The record of the polls is true, and holds all of them. -/
structure Recorded (filter : Filter) (calls : Nat) : Prop where
  filter : s.poller.filter = filter
  underway : s.Underway
  ended : ∀ p ∈ s.polls, p.Ended
  known : s.poller.lastSeen = PastPoll.knownToken s.polls
  chained : PastPoll.Chained s.polls
  listCalls : s.store.listCalls = calls + s.polls.countP fun p => p.listing.isSome

variable {s} {filter : Filter} {calls : Nat}

theorem recorded_start (filter : Filter) (store : Store) :
    (start filter store).Recorded filter store.listCalls where
  filter := rfl
  underway := fun _ h => by cases h
  ended := fun _ h => absurd h List.not_mem_nil
  known := rfl
  chained := trivial
  listCalls := rfl

theorem Recorded.concluded {p : PastPoll} {store : Store} (h : s.Recorded filter calls)
    (ended : p.Ended) (seen : p.seen = s.poller.lastSeen)
    (count : store.listCalls = s.store.listCalls + if p.listing.isSome then 1 else 0) :
    (s.concluded p store).Recorded filter calls where
  filter := h.filter
  underway := fun _ h => by cases h
  ended := List.forall_mem_cons.2 ⟨ended, h.ended⟩
  known := by
    rw [PolledStore.concluded, PastPoll.knownToken_cons, ← h.known, ← seen]
    exact ended.kept_eq
  chained := ⟨seen.trans h.known, h.chained⟩
  listCalls := by
    rw [PolledStore.concluded, List.countP_cons, count, h.listCalls]
    exact Nat.add_assoc _ _ _

theorem Stepped.recorded {a : PollStep} {r : Option PollResult × PolledStore}
    (hs : s.Stepped a r) (h : s.Recorded filter calls) : r.2.Recorded filter calls := by
  cases hs with
  | nothing => exact h
  | changed ch => exact { h with }
  | asked => exact { h with underway := fun _ h => by cases h }
  | listing moved =>
      refine { h with underway := fun token hp => ?_ }
      cases hp
      exact moved
  | answered ended seen unlisted => exact h.concluded ended seen (by rw [unlisted]; rfl)
  | listed ended seen pending read listing => exact h.concluded ended seen (by rw [listing]; rfl)

theorem Recorded.run (h : s.Recorded filter calls) (steps : List PollStep) :
    (s.run steps).Recorded filter calls := by
  induction steps generalizing s with
  | nil => exact h
  | cons a steps ih => exact ih ((s.stepped_step h.underway a).recorded h)

/-- The lists on record are those that were returned. -/
theorem Recorded.listings_eq (h : s.Recorded filter calls) :
    s.listings = s.polls.filterMap fun p => p.obtained?.map Prod.snd :=
  List.filterMap_congr fun p hp => (h.ended p hp).result_listing?

end PolledStore

end WafControl
