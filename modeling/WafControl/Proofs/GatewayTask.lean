import WafControl.Polling.Pipeline
import WafControl.Proofs.LastGoodSnapshot
import WafControl.Proofs.PolledStore

/-!
# The gateway pipeline is a fold over what the store said

The pipeline polls on every tick and publishes what it is given. Here the store changes and fails at
any point, watchers come and look at any time, and what the store said to every poll is on record.
From the record alone follows what the pipeline has done (`gateway_folds`): the snapshot of its node
is built from the latest listing whose build is consistent, the listings are counted by whether
their builds are, and nothing else leaves a trace. A listing that is refused uses up its token.
-/

namespace WafControl

namespace PastPoll

/-- The lists that the store gave to polls whose token was not that of the listing before, latest
first. -/
def heard : List PastPoll → List (List Protection)
  | [] => []
  | p :: earlier =>
    match p.obtained? with
    | some (token, ps) =>
      if knownToken earlier = some token then heard earlier else ps :: heard earlier
    | none => heard earlier

/-- Each poll asked for a list exactly if its token was not that of the listing before. -/
def Prompt : List PastPoll → Prop
  | [] => True
  | p :: earlier =>
    (p.listing.isSome ↔ ∃ token, p.token = .ok token ∧ knownToken earlier ≠ some token) ∧
      Prompt earlier

theorem token_of_obtained? {p : PastPoll} {token : String} {ps : List Protection}
    (h : p.obtained? = some (token, ps)) : p.token = .ok token ∧ p.listing = some (.ok ps) := by
  unfold obtained? at h
  split at h
  · rename_i ht hl
    cases h
    exact ⟨ht, hl⟩
  · cases h

theorem prompt_of_chained {polls : List PastPoll} (hc : Chained polls)
    (he : ∀ p ∈ polls, p.Ended) : Prompt polls := by
  induction polls with
  | nil => trivial
  | cons p earlier ih =>
      obtain ⟨hp, hearlier⟩ := List.forall_mem_cons.1 he
      refine ⟨?_, ih hc.2 hearlier⟩
      rw [hp.listing_isSome_iff, Moved, hc.1]

theorem heard_eq_of_chained {polls : List PastPoll} (hc : Chained polls)
    (he : ∀ p ∈ polls, p.Ended) :
    heard polls = polls.filterMap fun p => p.obtained?.map Prod.snd := by
  induction polls with
  | nil => rfl
  | cons p earlier ih =>
      obtain ⟨hp, hearlier⟩ := List.forall_mem_cons.1 he
      rw [heard, List.filterMap_cons, ih hc.2 hearlier]
      cases ho : p.obtained? with
      | none => rfl
      | some obtained =>
          obtain ⟨token, ps⟩ := obtained
          obtain ⟨htoken, hlisting⟩ := token_of_obtained? ho
          have hmoved : p.Moved := hp.listing_isSome_iff.1 (by rw [hlisting]; rfl)
          obtain ⟨token', ht, hne⟩ := hmoved
          cases htoken.symm.trans ht
          rw [hc.1] at hne
          simp only [if_neg hne]
          rfl

/-- A poll that failed, or whose token had not moved, returned no list. -/
theorem Ended.listing?_eq_none {p : PastPoll} (h : p.Ended) (hp : p.Fails ∨ ¬p.Moved) :
    p.result.listing? = none := by
  cases h with
  | unread seen e => rfl
  | unmoved token => rfl
  | unlisted moved e => rfl
  | @listed seen token moved ps =>
      rcases hp with (⟨e, he⟩ | ⟨e, he⟩) | hm
      · cases he
      · cases he
      · exact absurd ⟨token, rfl, moved⟩ hm

end PastPoll

/-! ### What the pipeline makes of a listing -/

namespace GatewayPipeline

variable (versions : Nat → String) {g : GatewayPipeline} {ps : List Protection}

theorem follow_of_listing?_eq_none {r : PollResult} (h : r.listing? = none) :
    g.follow versions r = g := by
  cases r with
  | failed e => rfl
  | unchanged => rfl
  | changed ps => cases h

theorem consume_of_fault {fault : Inconsistency}
    (h : (build g.applier.config ps).fault? = some fault) :
    g.consume versions ps =
      { g with applier := { g.applier with state := .idle }, rejected := g.rejected + 1 } := by
  simp only [consume, Applier.apply, Applier.publish_of_fault _ _ _ h]

theorem consume_of_consistent (h : (build g.applier.config ps).fault? = none) :
    g.consume versions ps =
      { g with
        applier := { g.applier with state := .idle }
        cache := g.cache.set g.applier.node ⟨versions g.published, build g.applier.config ps⟩
        published := g.published + 1 } := by
  simp only [consume, Applier.apply, Applier.publish_of_consistent _ _ _ h]

/-- The pipeline is what a list of listings, latest first, makes of it. -/
structure Folded (node : String) (config : GatewayConfig) (listings : List (List Protection))
    (g : GatewayPipeline) : Prop where
  publishes : g.applier.node = node
  builds : g.applier.config = config
  cached : (g.cache.get node).map Snapshot.resources =
    (listings.map (build config)).find? Resources.consistent
  published : g.published = listings.countP fun ps => (build config ps).consistent
  rejected : g.rejected = listings.countP fun ps => !(build config ps).consistent

variable {versions} {node : String} {config : GatewayConfig} {listings : List (List Protection)}

theorem Folded.consume (h : g.Folded node config listings) (ps : List Protection) :
    (g.consume versions ps).Folded node config (ps :: listings) := by
  obtain ⟨rfl, rfl, hcached, hpublished, hrejected⟩ := h
  cases hf : (build g.applier.config ps).fault? with
  | some fault =>
      have hc : (build g.applier.config ps).consistent = false := by
        rw [Resources.consistent, hf]
        rfl
      rw [consume_of_fault versions hf]
      -- a listing that is refused is counted, and leaves the snapshot before it
      refine ⟨rfl, rfl, ?_, ?_, ?_⟩
      · simpa [hc] using hcached
      · simpa [hc] using hpublished
      · simpa [hc] using hrejected
  | none =>
      have hc : (build g.applier.config ps).consistent = true :=
        Option.isNone_iff_eq_none.2 hf
      rw [consume_of_consistent versions hf]
      refine ⟨rfl, rfl, ?_, ?_, ?_⟩
      · simp [hc]
      · simpa [hc] using hpublished
      · simpa [hc] using hrejected

theorem Folded.follow (h : g.Folded node config listings) (r : PollResult) :
    (g.follow versions r).Folded node config (r.listing?.toList ++ listings) := by
  cases r with
  | failed e => exact h
  | unchanged => exact h
  | changed ps => exact h.consume ps

theorem Folded.watch (h : g.Folded node config listings) (other : String) :
    Folded node config listings { g with cache := (g.cache.watch other).2 } :=
  { h with cached := (congrArg _ (Cache.get_watch g.cache other node)).trans h.cached }

end GatewayPipeline

/-! ### The pipeline and its surroundings -/

/-- A gateway pipeline with its store, its ticks and the watchers of what it publishes. -/
structure GatewayTask where
  ticker : Ticker
  polling : PolledStore
  pipeline : GatewayPipeline
  watchers : List Watcher := []

inductive GatewayStep where
  | change (ch : StoreChange)
  /-- A tick that is due is taken, and a poll begins. -/
  | tick (now : Nat)
  | answer
  | list
  | watch (node : String)
  /-- The watcher at a place has seen the current snapshot. -/
  | see (i : Nat)
  deriving DecidableEq, Repr

def GatewayStep.watches : GatewayStep → Bool
  | change _ => false
  | tick _ => false
  | answer => false
  | list => false
  | watch _ => true
  | see _ => true

namespace GatewayTask

/-- A pipeline whose first tick is still to come, and which nobody watches. -/
def start (ticker : Ticker) (store : Store) (node : String) (config : GatewayConfig) :
    GatewayTask :=
  { ticker, polling := .start .enabled store, pipeline := { applier := { node, config } } }

/-- A step of the store or of the poller; the pipeline follows the result. -/
def poll (versions : Nat → String) (a : PollStep) (s : GatewayTask) : GatewayTask :=
  let (result, polling) := s.polling.step a
  { s with polling, pipeline := result.toList.foldl (GatewayPipeline.follow versions) s.pipeline }

def tick (versions : Nat → String) (now : Nat) (s : GatewayTask) : GatewayTask :=
  if s.ticker.due now ∧ s.polling.phase = .idle then
    { s.poll versions .ask with ticker := s.ticker.tick now }
  else s

def step (versions : Nat → String) (s : GatewayTask) : GatewayStep → GatewayTask
  | .change ch => s.poll versions (.change ch)
  | .tick now => s.tick versions now
  | .answer => s.poll versions .answer
  | .list => s.poll versions .list
  | .watch node =>
    let (w, cache) := s.pipeline.cache.watch node
    { s with pipeline := { s.pipeline with cache }, watchers := s.watchers ++ [w] }
  | .see i => { s with watchers := s.watchers.modify i fun w => w.see s.pipeline.cache }

def run (versions : Nat → String) (s : GatewayTask) (steps : List GatewayStep) : GatewayTask :=
  steps.foldl (step versions) s

/-- The record is true, and the pipeline is what it makes of it. -/
structure Sound (node : String) (config : GatewayConfig) (calls : Nat) (s : GatewayTask) :
    Prop where
  recorded : s.polling.Recorded .enabled calls
  folded : s.pipeline.Folded node config s.polling.listings

variable {versions : Nat → String} {node : String} {config : GatewayConfig} {calls : Nat}
  {s : GatewayTask}

theorem sound_start (ticker : Ticker) (store : Store) (node : String) (config : GatewayConfig) :
    (start ticker store node config).Sound node config store.listCalls where
  recorded := PolledStore.recorded_start .enabled store
  folded := ⟨rfl, rfl, rfl, rfl, rfl⟩

/-- The lists returned after a step are those before, and that of the poll that the step ends. -/
theorem listings_of_stepped {p : PolledStore} {a : PollStep}
    {r : Option PollResult × PolledStore} (h : p.Stepped a r) :
    r.2.listings = (r.1.bind PollResult.listing?).toList ++ p.listings := by
  cases h with
  | nothing => rfl
  | changed ch => rfl
  | asked => rfl
  | listing moved => rfl
  | answered ended seen unlisted => exact PolledStore.listings_concluded p _ _
  | listed ended seen pending read listing => exact PolledStore.listings_concluded p _ _

theorem Sound.poll (h : s.Sound node config calls) (a : PollStep) :
    (s.poll versions a).Sound node config calls := by
  have hstep := s.polling.stepped_step h.recorded.underway a
  refine ⟨hstep.recorded h.recorded, ?_⟩
  have hlistings := listings_of_stepped hstep
  unfold GatewayTask.poll
  simp only [hlistings]
  cases (s.polling.step a).1 with
  | none => exact h.folded
  | some result => exact h.folded.follow result

theorem Sound.tick (h : s.Sound node config calls) (now : Nat) :
    (s.tick versions now).Sound node config calls := by
  have hask : (s.poll versions .ask).Sound node config calls := h.poll .ask
  unfold GatewayTask.tick
  split
  · exact ⟨hask.recorded, hask.folded⟩
  · exact h

theorem Sound.step (h : s.Sound node config calls) (a : GatewayStep) :
    (s.step versions a).Sound node config calls := by
  cases a with
  | change ch => exact h.poll (.change ch)
  | tick now => exact h.tick now
  | answer => exact h.poll .answer
  | list => exact h.poll .list
  | watch other => exact ⟨h.recorded, h.folded.watch other⟩
  | see i => exact ⟨h.recorded, h.folded⟩

theorem Sound.run (h : s.Sound node config calls) (steps : List GatewayStep) :
    (s.run versions steps).Sound node config calls := by
  induction steps generalizing s with
  | nil => exact h
  | cons a steps ih => exact ih (h.step a)

/-- A step of a poll that ends none, or one that returns no list, does not touch the pipeline. -/
theorem Sound.pipeline_poll (h : s.Sound node config calls) {a : PollStep}
    (hp : ∀ p, (s.poll versions a).polling.polls = p :: s.polling.polls → p.Fails ∨ ¬p.Moved) :
    (s.poll versions a).pipeline = s.pipeline := by
  have hstep := s.polling.stepped_step h.recorded.underway a
  unfold GatewayTask.poll at hp ⊢
  revert hstep hp
  generalize s.polling.step a = r
  rintro hp (_ | _ | _ | _ | @⟨p, ended, _, _⟩ | @⟨p, _, ended, _, _, _, _⟩)
  · rfl
  · rfl
  · rfl
  · rfl
  · exact GatewayPipeline.follow_of_listing?_eq_none versions (ended.listing?_eq_none (hp p rfl))
  · exact GatewayPipeline.follow_of_listing?_eq_none versions (ended.listing?_eq_none (hp p rfl))

/-- A tick only asks, so it ends no poll. -/
theorem tick_untouched (s : GatewayTask) (now : Nat) :
    (s.tick versions now).pipeline = s.pipeline ∧ (s.tick versions now).watchers = s.watchers := by
  unfold GatewayTask.tick
  split
  · exact ⟨rfl, rfl⟩
  · exact ⟨rfl, rfl⟩

theorem Sound.untouched (h : s.Sound node config calls) {a : GatewayStep} (ha : a.watches = false)
    (hp : ∀ p, (s.step versions a).polling.polls = p :: s.polling.polls → p.Fails ∨ ¬p.Moved) :
    (s.step versions a).pipeline = s.pipeline ∧ (s.step versions a).watchers = s.watchers := by
  cases a with
  | change ch => exact ⟨h.pipeline_poll hp, rfl⟩
  | tick now => exact s.tick_untouched now
  | answer => exact ⟨h.pipeline_poll hp, rfl⟩
  | list => exact ⟨h.pipeline_poll hp, rfl⟩
  | watch node => cases ha
  | see i => cases ha

/-- Whatever the store does between and during the polls, and whoever watches: each poll asks for a
list exactly if its token is not that of the listing before; the snapshot of the node is built from
the latest of these lists whose build is consistent; and they are counted by whether their builds
are. A step that does not end a poll with such a list leaves the cache, the counts and what the
watchers have seen as they were. -/
theorem gateway_folds (ticker : Ticker) (store : Store) (node : String) (config : GatewayConfig)
    (versions : Nat → String) (steps : List GatewayStep) :
    let s := (start ticker store node config).run versions steps
    let listings := PastPoll.heard s.polling.polls
    PastPoll.Prompt s.polling.polls ∧
      (s.pipeline.cache.get node).map Snapshot.resources =
        (listings.map (build config)).find? Resources.consistent ∧
      s.pipeline.published = listings.countP (fun ps => (build config ps).consistent) ∧
      s.pipeline.rejected = listings.countP (fun ps => !(build config ps).consistent) ∧
      ∀ a, a.watches = false →
        let s' := s.step versions a
        (∀ p, s'.polling.polls = p :: s.polling.polls → p.Fails ∨ ¬p.Moved) →
          s'.pipeline = s.pipeline ∧ s'.watchers = s.watchers := by
  intro s listings
  have h : s.Sound node config store.listCalls := (sound_start ticker store node config).run steps
  have hchained := h.recorded.chained
  have hlistings : listings = s.polling.listings :=
    (PastPoll.heard_eq_of_chained hchained h.recorded.ended).trans h.recorded.listings_eq.symm
  have hfolded := h.folded
  rw [← hlistings] at hfolded
  refine ⟨PastPoll.prompt_of_chained hchained h.recorded.ended, hfolded.cached, hfolded.published,
    hfolded.rejected, fun a ha hp => h.untouched ha hp⟩

/-- A list that is published is followed by one that is refused, by a poll that finds nothing new,
and by one whose listing is about to fail. -/
def refusing : List GatewayStep :=
  [ .tick 0, .answer, .list,
    .change { version := some "2", protections := some Applier.namesakes },
    .tick 1000, .answer, .list, .tick 2000, .answer,
    .change { version := some "3", protections := some [], listError := some (some "unavailable") },
    .tick 3000, .answer ]

theorem refusing_folded :
    let s := (start ⟨1000, 0, by decide⟩
      { version := "1", protections := [Protection.guarding "shop" "shop.blue.svc" 31000] }
      "gateway" {}).run toString refusing
    s.pipeline.published = 1 ∧ s.pipeline.rejected = 1 ∧
      (s.pipeline.cache.get "gateway").map Snapshot.resources =
        some (build {} [Protection.guarding "shop" "shop.blue.svc" 31000]) ∧
      (s.step toString .list).pipeline = s.pipeline := by
  intro s
  obtain ⟨-, hcached, hpublished, hrejected, huntouched⟩ := gateway_folds ⟨1000, 0, by decide⟩
    { version := "1", protections := [Protection.guarding "shop" "shop.blue.svc" 31000] }
    "gateway" {} toString refusing
  have hheard : PastPoll.heard s.polling.polls =
      [Applier.namesakes, [Protection.guarding "shop" "shop.blue.svc" 31000]] := by decide
  have hfails : ∀ p, (s.step toString .list).polling.polls = p :: s.polling.polls →
      p.Fails ∨ ¬p.Moved := by
    intro p hp
    have hlisting : (s.step toString .list).polling.polls.head?.map PastPoll.listing =
        some (some (.error "unavailable")) := rfl
    rw [hp] at hlisting
    exact .inl (.inr ⟨"unavailable", Option.some.inj hlisting⟩)
  refine ⟨hpublished.trans ?_, hrejected.trans ?_, hcached.trans ?_, ?_⟩
  · rw [hheard]
    decide
  · rw [hheard]
    decide
  · rw [hheard]
    decide
  · exact (huntouched .list rfl hfails).1

end GatewayTask

end WafControl
