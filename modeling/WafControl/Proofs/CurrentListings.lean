import WafControl.Proofs.PolledStore

/-!
# A poller that knows the current token has the current protections

The token and the list of a poll are read at different times, and the store may change between them.
Where every change brings a token that the store never had, this errs on the safe side: the token
that a poller knows is at most as new as the list that it returned last, so it is current only if
the list is (`current_of_lastSeen`).
-/

namespace WafControl

namespace PollStep

/-- The change of the store that a step makes. -/
def storeChange : PollStep → StoreChange
  | change ch => ch
  | ask => {}
  | answer => {}
  | list => {}

/-- The token that a step brings. -/
def token? (a : PollStep) : Option String := a.storeChange.version

/-- A step changes the protections only together with the token, and brings a token that the store
never had. -/
def Renews (had : List String) (a : PollStep) : Prop :=
  (∀ token ∈ a.token?, token ∉ had) ∧ (a.token? = none → a.storeChange.protections = none)

instance (had : List String) (a : PollStep) : Decidable (a.Renews had) :=
  inferInstanceAs (Decidable (_ ∧ _))

/-- Every change of the protections brings a token that the store never had. -/
def Renewing (had : List String) : List PollStep → Prop
  | [] => True
  | a :: steps => a.Renews had ∧ Renewing (a.token?.toList ++ had) steps

instance decidableRenewing : ∀ had steps, Decidable (Renewing had steps)
  | _, [] => isTrue trivial
  | had, a :: steps =>
    have := decidableRenewing (a.token?.toList ++ had) steps
    inferInstanceAs (Decidable (_ ∧ _))

end PollStep

namespace PolledStore

/-- The list that was returned last. -/
def returned? (s : PolledStore) : Option (List Protection) := s.listings.head?

variable {s : PolledStore}

theorem returned?_concluded (p : PastPoll) (store : Store) :
    (s.concluded p store).returned? = p.result.listing?.or s.returned? := by
  rw [returned?, listings_concluded]
  cases p.result.listing? with
  | none => rfl
  | some ps => rfl

/-- The tokens that the poller knows are among those that the store has had, and if it knows the
current one, it has returned the current protections. -/
structure Current (had : List String) (s : PolledStore) : Prop where
  version : s.store.version ∈ had
  pending : ∀ token, s.phase = .listing token → token ∈ had
  seen : ∀ token, s.poller.lastSeen = some token → token ∈ had
  returned : s.poller.lastSeen = some s.store.version →
    s.returned? = some (s.poller.filter.select s.store.protections)

theorem current_start (filter : Filter) (store : Store) :
    (start filter store).Current [store.version] where
  version := List.mem_singleton_self _
  pending := fun _ h => by cases h
  seen := fun _ h => by cases h
  returned := fun h => by cases h

variable {had : List String}

/-- A change of the store is not yet known to the poller. -/
theorem Current.change (h : s.Current had) {ch : StoreChange}
    (hr : (PollStep.change ch).Renews had) :
    (s.change ch).Current ((PollStep.change ch).token?.toList ++ had) := by
  cases hv : ch.version with
  -- what was returned may be outdated now, but the poller cannot know the new token
  | some token =>
      have hfresh : token ∉ had := hr.1 token hv
      have htokens : (PollStep.change ch).token?.toList ++ had = token :: had := by
        simp [PollStep.token?, PollStep.storeChange, hv]
      have hversion : (s.change ch).store.version = token := by
        simp [PolledStore.change, Store.change, hv]
      rw [htokens]
      exact
        { version := by
            rw [hversion]
            exact List.mem_cons_self
          pending := fun t ht => List.mem_cons_of_mem _ (h.pending t ht)
          seen := fun t ht => List.mem_cons_of_mem _ (h.seen t ht)
          returned := fun ht => by
            rw [hversion] at ht
            exact absurd (h.seen token ht) hfresh }
  | none =>
      have hkept : ch.protections = none := hr.2 hv
      have htokens : (PollStep.change ch).token?.toList ++ had = had := by
        simp [PollStep.token?, PollStep.storeChange, hv]
      have hversion : (s.change ch).store.version = s.store.version := by
        simp [PolledStore.change, Store.change, hv]
      have hprotections : (s.change ch).store.protections = s.store.protections := by
        simp [PolledStore.change, Store.change, hkept]
      rw [htokens]
      exact
        { version := by
            rw [hversion]
            exact h.version
          pending := h.pending
          seen := h.seen
          returned := by
            rw [hversion, hprotections]
            exact h.returned }

/-- What was read before a listing is at most as new as what is listed. -/
theorem Current.listed (h : s.Current had) {p : PastPoll} {token : String} (ended : p.Ended)
    (seen : p.seen = s.poller.lastSeen) (pending : s.phase = .listing token)
    (read : p.token = .ok token)
    (listing : p.listing = some (s.store.answerList s.poller.filter)) :
    (s.concluded p (s.store.recordList s.poller.filter)).Current had := by
  have hkept := ended.kept_eq
  have hresult := ended.result_listing?
  cases hl : s.store.listError with
  | some e =>
      have hnone : p.obtained? = none := by
        simp [PastPoll.obtained?, read, listing, Store.answerList, hl]
      rw [hnone] at hkept hresult
      have hsame : p.kept = s.poller.lastSeen := hkept.trans seen
      exact
        { version := h.version
          pending := fun t ht => by cases ht
          seen := fun t ht => h.seen t (hsame.symm.trans ht)
          returned := fun ht => by
            rw [returned?_concluded, hresult]
            exact h.returned (hsame.symm.trans ht) }
  | none =>
      have hsome : p.obtained? = some (token, s.poller.filter.select s.store.protections) := by
        simp [PastPoll.obtained?, read, listing, Store.answerList, hl]
      rw [hsome] at hkept hresult
      exact
        { version := h.version
          pending := fun t ht => by cases ht
          seen := fun t ht => by
            cases hkept.symm.trans ht
            exact h.pending token pending
          returned := fun _ => by
            rw [returned?_concluded, hresult]
            rfl }

theorem Stepped.current {a : PollStep} {r : Option PollResult × PolledStore} (hs : s.Stepped a r)
    (h : s.Current had) (hr : a.Renews had) : r.2.Current (a.token?.toList ++ had) := by
  cases hs with
  | nothing =>
      exact
        { version := List.mem_append_right _ h.version
          pending := fun t ht => List.mem_append_right _ (h.pending t ht)
          seen := fun t ht => List.mem_append_right _ (h.seen t ht)
          returned := h.returned }
  | changed ch => exact h.change hr
  | asked => exact { h with pending := fun _ ht => by cases ht }
  | listing moved =>
      refine { h with pending := fun t ht => ?_ }
      cases ht
      exact h.version
  | answered ended seen unlisted =>
      rename_i p
      have hnone : p.obtained? = none := by simp [PastPoll.obtained?, unlisted]
      have hkept : p.kept = s.poller.lastSeen := by
        rw [ended.kept_eq, hnone]
        exact seen
      exact
        { version := h.version
          pending := fun t ht => by cases ht
          seen := fun t ht => h.seen t (hkept.symm.trans ht)
          returned := fun ht => by
            rw [returned?_concluded, ended.result_listing?, hnone]
            exact h.returned (hkept.symm.trans ht) }
  | listed ended seen pending read listing => exact h.listed ended seen pending read listing

theorem Current.run (h : s.Current had) {filter : Filter} {calls : Nat}
    (hs : s.Recorded filter calls) {steps : List PollStep} (hr : PollStep.Renewing had steps) :
    ∃ had', (s.run steps).Current had' := by
  induction steps generalizing s had with
  | nil => exact ⟨had, h⟩
  | cons a steps ih =>
      have hstep := s.stepped_step hs.underway a
      exact ih (hstep.current h hr.1) (hstep.recorded hs) hr.2

/-- However the changes and failures of a store fall between the steps of polls: if every change
brings a token that the store never had, a poller that knows the current token has last returned the
current protections under its filter. A poll with a call that failed leaves the token known as it
was, and the polls that asked the store for a list are those whose token had moved. -/
theorem current_of_lastSeen (filter : Filter) (store : Store) (steps : List PollStep)
    (h : PollStep.Renewing [store.version] steps) :
    let s := (start filter store).run steps
    (s.poller.lastSeen = some s.store.version →
        s.returned? = some (filter.select s.store.protections)) ∧
      (∀ p ∈ s.polls, p.Fails → (∃ e, p.result = .failed e) ∧ p.kept = p.seen) ∧
      (∀ p ∈ s.polls, p.listing.isSome ↔ p.Moved) ∧
      s.store.listCalls = store.listCalls + s.polls.countP fun p => p.listing.isSome := by
  intro s
  have hrecorded : s.Recorded filter store.listCalls := (recorded_start filter store).run steps
  obtain ⟨had, hcurrent⟩ : ∃ had, s.Current had :=
    (current_start filter store).run (recorded_start filter store) h
  have hreturned := hcurrent.returned
  rw [hrecorded.filter] at hreturned
  refine ⟨hreturned, ?_, ?_, hrecorded.listCalls⟩
  · intro p hp hf
    exact (hrecorded.ended p hp).of_fails hf
  · intro p hp
    exact (hrecorded.ended p hp).listing_isSome_iff

/-- A protection is switched off after the token was read and before the list is, and the listing
that this calls for fails at first. -/
def overtaken : List PollStep :=
  [ .ask, .answer,
    .change { version := some "2", protections := some [{ id := 1, mode := .off }] },
    .list, .ask, .answer, .change { listError := some (some "unavailable") }, .list,
    .change { listError := some none }, .ask, .answer, .list ]

theorem overtaken_current :
    let s :=
      (start .all { version := "1", protections := [{ id := 1, mode := .on }] }).run overtaken
    s.polls.map PastPoll.seen = [some "1", some "1", none] ∧
      s.returned? = some [{ id := 1, mode := .off }] := by
  intro s
  have h := current_of_lastSeen .all { version := "1", protections := [{ id := 1, mode := .on }] }
    overtaken (by decide)
  have hs : s.poller.lastSeen = some s.store.version := by decide
  exact ⟨by decide, h.1 hs⟩

end PolledStore

end WafControl
