import WafControl.Proofs.TypeIsolation

/-!
# Stale requests

A request that answers a response other than the last one of its type is neither answered nor
counted. All it can leave behind is an empty subscription: as every request does, it makes the
stream list its type, and a type that is listed is pushed. So the stream goes on as if the request
had never come, unless its type was not requested before and a snapshot is pushed before it is
requested again (`stale_unheard_iff`).

Two streams of which one lists a type more (`Lists`) go on alike until a snapshot is pushed.
-/

namespace WafControl.Discovery

/-- The nonce of the last response of a type. -/
def lastNonce? (t : ResourceType) (rs : List Response) : Option String :=
  (ofType t rs).getLast?.map Response.nonce

theorem lastOf?_logged (t : ResourceType) (rs : List Response) (ahead : Bool) :
    lastOf? t (logged rs ahead []) = (ofType t rs).getLast? := by
  rw [lastOf?, logged, List.append_nil, ← List.map_reverse, List.find?_map, Option.map_map,
    List.getLast?_eq_head?_reverse, ofType, ← List.filter_reverse, List.head?_filter]
  exact Option.map_id.symm ▸ rfl

theorem logged_append (rs rs' : List Response) (ahead : Bool) (log : List Sending) :
    logged (rs ++ rs') ahead log = logged rs' ahead (logged rs ahead log) := by
  simp [logged]

namespace Subscriptions

variable (s : Subscriptions) (m : Counts) (fixed : Option ResourceType)

/-- What each input is answered with, and what is counted by then. -/
def follow (s : Subscriptions) (m : Counts) (fixed : Option ResourceType) :
    List Input → List (List Response × Counts)
  | [] => []
  | i :: is =>
    let (rs, s, m) := s.take m fixed i
    (rs, m) :: s.follow m fixed is

/-- What a stream that was given some inputs makes of those that come later. -/
def later (before after : List Input) : List (List Response × Counts) :=
  let (_, s, m) := ({} : Subscriptions).serve m fixed before
  s.follow m fixed after

/-- Whether a request answers a response that is not the last one of its type, of all that were
sent. -/
def Late (sent : List Response) (r : Request) : Prop :=
  r.nonce ≠ "" ∧ ∀ t, typeOf? fixed r = some t → lastNonce? t sent ≠ some r.nonce

/-- Whether a type is requested. -/
def Asked (t : ResourceType) (is : List Input) : Prop :=
  ∃ r snapshot, Input.request r snapshot ∈ is ∧ typeOf? fixed r = some t

/-- Whether a snapshot is pushed before a type is requested. -/
def PushedFirst (t : ResourceType) : List Input → Prop
  | [] => False
  | .push _ :: _ => True
  | .request r _ :: is => typeOf? fixed r ≠ some t ∧ PushedFirst t is

/-! ### What a run records -/

theorem recorded_take {log : List Sending} {s : Subscriptions} (h : Recorded log s) (i : Input) :
    Recorded (logged (s.take m fixed i).1 false log) (s.take m fixed i).2.1 := by
  cases i with
  | push x => exact h.pushAll _ false
  | request r snapshot =>
      have hr := s.handled_handleRequest m fixed r snapshot
      revert hr
      simp only [take]
      generalize (s.handleRequest m fixed r snapshot).1 = response
      generalize (s.handleRequest m fixed r snapshot).2.1 = s'
      intro hr
      cases hr with
      | unknown => exact h
      | stale | rejected | unanswered => exact h.record _ _
      | answered => exact (h.record _ _).sent _ _ false

theorem recorded_serve {log : List Sending} {s : Subscriptions} (h : Recorded log s)
    (is : List Input) :
    Recorded (logged (s.serve m fixed is).1 false log) (s.serve m fixed is).2.1 := by
  induction is generalizing s m log with
  | nil => exact h
  | cons i is ih =>
      simp only [serve, logged_append]
      exact ih _ (recorded_take m fixed h i)

theorem nonce_serve (is : List Input) (t : ResourceType) :
    ((({} : Subscriptions).serve m fixed is).2.1.subscription t).nonce =
      lastNonce? t (({} : Subscriptions).serve m fixed is).1 := by
  have hrecorded : Recorded [] {} := ⟨fun _ => ⟨rfl, rfl⟩, rfl⟩
  rw [((recorded_serve m fixed hrecorded is).last t).1, lastOf?_logged, lastNonce?]

theorem stale_serve_of_late {is : List Input} {r : Request}
    (h : Late fixed (({} : Subscriptions).serve m fixed is).1 r) {t : ResourceType}
    (ht : typeOf? fixed r = some t) :
    stale ((({} : Subscriptions).serve m fixed is).2.1.subscription t) r = true := by
  have hne := h.2 t ht
  rw [← nonce_serve] at hne
  simp [stale, h.1, hne]

theorem find?_take_ne_none_iff (i : Input) (t : ResourceType) :
    (s.take m fixed i).2.1.types.find? t ≠ none ↔
      Asked fixed t [i] ∨ s.types.find? t ≠ none := by
  cases i with
  | push x =>
      rw [take, find?_handleSnapshot_ne_none_iff]
      simp [Asked]
  | request r snapshot =>
      rw [take, (s.handled_handleRequest m fixed r snapshot).find?_ne_none_iff]
      simp [Asked]

/-- A stream lists the types that were requested. -/
theorem find?_serve_ne_none_iff (is : List Input) (t : ResourceType) :
    (s.serve m fixed is).2.1.types.find? t ≠ none ↔
      Asked fixed t is ∨ s.types.find? t ≠ none := by
  induction is generalizing s m with
  | nil => simp [serve, Asked]
  | cons i is ih =>
      have hcons : Asked fixed t (i :: is) ↔ Asked fixed t is ∨ Asked fixed t [i] := by
        simp only [Asked, List.mem_cons, List.not_mem_nil, or_false, or_and_right, exists_or]
        exact or_comm
      rw [serve, ih, find?_take_ne_none_iff, hcons, or_assoc]

/-! ### A stream that lists a type more -/

/-- The second state lists a type, and is the first otherwise: subscriptions to types that are not
listed are empty. -/
structure Lists (t : ResourceType) (s s' : Subscriptions) : Prop where
  nonces : s'.nonces = s.nonces
  same : ∀ t', s'.subscription t' = s.subscription t'
  listed : ∀ t', s'.types.find? t' ≠ none ↔ t' = t ∨ s.types.find? t' ≠ none

theorem lists_record (t : ResourceType) : Lists t s (s.record t (s.subscription t).names) where
  nonces := rfl
  same := fun t' => by
    by_cases ht : t' = t
    · subst ht
      rw [subscription_record]
    · rw [subscription_record_of_ne s ht]
  listed := fun t' => find?_record_ne_none_iff s t _

namespace Lists

variable {s s' : Subscriptions} {t : ResourceType}

theorem record (h : Lists t s s') (t' : ResourceType) (names : List String) :
    Lists t (s.record t' names) (s'.record t' names) where
  nonces := h.nonces
  same := fun t₁ => by
    by_cases ht : t₁ = t'
    · subst ht
      rw [subscription_record, subscription_record, h.same]
    · rw [subscription_record_of_ne _ ht, subscription_record_of_ne _ ht, h.same]
  listed := fun t₁ => by
    rw [find?_record_ne_none_iff, find?_record_ne_none_iff, h.listed, or_left_comm]

theorem response (h : Lists t s s') (t' : ResourceType) (x : Snapshot) :
    s'.response t' x = s.response t' x := by
  rw [Subscriptions.response, Subscriptions.response, h.nonces, h.same]

theorem sent (h : Lists t s s') (t' : ResourceType) (x : Snapshot) :
    Lists t (s.sent t' x) (s'.sent t' x) where
  nonces := congrArg (· + 1) h.nonces
  same := fun t₁ => by
    by_cases ht : t₁ = t'
    · subst ht
      rw [subscription_sent, subscription_sent, h.nonces, h.same]
    · rw [subscription_sent_of_ne _ ht, subscription_sent_of_ne _ ht, h.same]
  listed := fun t₁ => by
    rw [find?_sent_ne_none_iff, find?_sent_ne_none_iff, h.listed, or_left_comm]

theorem handleTyped (h : Lists t s s') (m : Counts) (t' : ResourceType) (r : Request)
    (snapshot : Option Snapshot) :
    ∃ s₁', s'.handleTyped m t' r snapshot =
        ((s.handleTyped m t' r snapshot).1, s₁', (s.handleTyped m t' r snapshot).2.2) ∧
      Lists t (s.handleTyped m t' r snapshot).2.1 s₁' := by
  have hrec := h.record t' r.names
  rw [s'.handleTyped_eq, s.handleTyped_eq, h.same]
  cases verdict (s.subscription t') r snapshot with
  | stale => exact ⟨_, rfl, h.record t' _⟩
  | rejected | recorded => exact ⟨_, rfl, hrec⟩
  | answered x =>
      dsimp only
      rw [hrec.response]
      exact ⟨_, rfl, hrec.sent t' x⟩

/-- A request is answered by both alike. -/
theorem handleRequest (h : Lists t s s') (m : Counts) (fixed : Option ResourceType) (r : Request)
    (snapshot : Option Snapshot) :
    ∃ s₁', s'.handleRequest m fixed r snapshot =
        ((s.handleRequest m fixed r snapshot).1, s₁',
          (s.handleRequest m fixed r snapshot).2.2) ∧
      Lists t (s.handleRequest m fixed r snapshot).2.1 s₁' := by
  simp only [Subscriptions.handleRequest]
  cases typeOf? fixed r with
  | none => exact ⟨s', rfl, h⟩
  | some t' => exact h.handleTyped m t' r snapshot

theorem pushAll (h : Lists t s s') (m : Counts) (x : Snapshot) (ts : List ResourceType) :
    ∃ s₁', s'.pushAll m x ts = ((s.pushAll m x ts).1, s₁', (s.pushAll m x ts).2.2) ∧
      Lists t (s.pushAll m x ts).2.1 s₁' := by
  induction ts generalizing s s' m with
  | nil => exact ⟨s', rfl, h⟩
  | cons t' ts ih =>
      obtain ⟨s₁', heq, h₁⟩ := ih (h.sent t' x) (m.respond t')
      simp only [Subscriptions.pushAll, respond_eq, h.response, heq]
      exact ⟨s₁', rfl, h₁⟩

theorem outdated_eq_true_iff (h : Lists t s s') (version : String) (t' : ResourceType) :
    s'.outdated version t' = true ↔
      (t' = t ∨ s.types.find? t' ≠ none) ∧ (s.subscription t').sentVersion ≠ some version := by
  rw [Subscriptions.outdated_eq_true_iff, h.listed, h.same]

/-- A snapshot is pushed by both alike if the type was listed before. -/
theorem handleSnapshot (h : Lists t s s') (ht : s.types.find? t ≠ none) (m : Counts)
    (x : Snapshot) :
    ∃ s₁', s'.handleSnapshot m x =
        ((s.handleSnapshot m x).1, s₁', (s.handleSnapshot m x).2.2) ∧
      Lists t (s.handleSnapshot m x).2.1 s₁' := by
  have houtdated : s'.outdated x.version = s.outdated x.version := by
    funext t'
    rw [Bool.eq_iff_iff, h.outdated_eq_true_iff, Subscriptions.outdated_eq_true_iff,
      or_iff_right_of_imp]
    rintro rfl
    exact ht
  rw [Subscriptions.handleSnapshot, houtdated]
  exact h.pushAll m x _

/-- If it was not, then only the second pushes it: an empty subscription was sent no version. -/
theorem handleSnapshot_ne (h : Lists t s s') (ht : s.types.find? t = none) (m : Counts)
    (x : Snapshot) : (s'.handleSnapshot m x).1 ≠ (s.handleSnapshot m x).1 := by
  intro heq
  have htypes := congrArg (List.map Response.type) heq
  rw [map_type_handleSnapshot, map_type_handleSnapshot] at htypes
  have hsent : (s.subscription t).sentVersion ≠ some x.version := by
    rw [s.subscription_of_none ht]
    nofun
  have hpushed : t ∈ ResourceType.pushOrder.filter (s'.outdated x.version) :=
    List.mem_filter.2 ⟨t.mem_pushOrder, (h.outdated_eq_true_iff _ t).2 ⟨Or.inl rfl, hsent⟩⟩
  rw [htypes] at hpushed
  exact (s.outdated_eq_true_iff.1 (List.mem_filter.1 hpushed).2).1 ht

/-- The two go on alike if the type was listed before, or is requested before the next push. -/
theorem follow_eq_iff (h : Lists t s s') (m : Counts) (fixed : Option ResourceType)
    (is : List Input) : s'.follow m fixed is = s.follow m fixed is ↔
      s.types.find? t ≠ none ∨ ¬ PushedFirst fixed t is := by
  induction is generalizing s s' m with
  | nil => simp [follow, PushedFirst]
  | cons i is ih =>
      cases i with
      | request r snapshot =>
          obtain ⟨s₁', heq, h₁⟩ := h.handleRequest m fixed r snapshot
          have hlisted :=
            (s.handled_handleRequest m fixed r snapshot).find?_ne_none_iff (t := t)
          simp only [follow, take, heq, List.cons.injEq, true_and, ih h₁, hlisted, PushedFirst]
          tauto
      | push x =>
          cases ht : s.types.find? t with
          | none =>
              simp [follow, take, PushedFirst, h.handleSnapshot_ne ht m x]
          | some sub =>
              have hknown : s.types.find? t ≠ none := by simp [ht]
              obtain ⟨s₁', heq, h₁⟩ := h.handleSnapshot hknown m x
              simp only [follow, take, heq, List.cons.injEq, true_and, ih h₁,
                find?_handleSnapshot_ne_none_iff]
              simp [ht]

end Lists

/-! ### Stale requests are ignored -/

theorem take_of_stale {t : ResourceType} {r : Request} (ht : typeOf? fixed r = some t)
    (hstale : stale (s.subscription t) r = true) (snapshot : Option Snapshot) :
    s.take m fixed (.request r snapshot) = ([], s.record t (s.subscription t).names, m) := by
  simp [take, handleRequest, ht, handleTyped, hstale]

theorem take_of_unknown {r : Request} (ht : typeOf? fixed r = none) (snapshot : Option Snapshot) :
    s.take m fixed (.request r snapshot) = ([], s, m) := by
  simp [take, handleRequest, ht]

theorem serve_concat (is : List Input) (i : Input) :
    s.serve m fixed (is ++ [i]) =
      let (now, s, m) := s.serve m fixed is
      let (rs, s, m) := s.take m fixed i
      (now ++ rs, s, m) := by
  rw [serve_append]
  simp [serve]

/-- A request that answers an old response, or one that was never sent, is not answered, and nothing
is counted. The stream goes on as if the request had never come exactly if its type was requested
before, or is requested again before a snapshot is pushed. -/
theorem stale_unheard_iff (before : List Input) {r : Request} (snapshot : Option Snapshot)
    (hlate : Late fixed (({} : Subscriptions).serve m fixed before).1 r) :
    let served := ({} : Subscriptions).serve m fixed
    let late := [Input.request r snapshot]
    ((served (before ++ late)).1 = (served before).1 ∧
        (served (before ++ late)).2.2 = (served before).2.2) ∧
      (∀ after, later m fixed (before ++ late) after = later m fixed before after ↔
        ∀ t, typeOf? fixed r = some t → Asked fixed t before ∨ ¬ PushedFirst fixed t after) ∧
      ((∀ after, later m fixed (before ++ late) after = later m fixed before after) ↔
        ∀ t, typeOf? fixed r = some t → Asked fixed t before) := by
  intro served late
  simp only [served, late, later, serve_concat]
  cases ht : typeOf? fixed r with
  | none => simp [take_of_unknown _ _ _ ht]
  | some t =>
      have hstale := stale_serve_of_late m fixed hlate ht
      have hasked : (({} : Subscriptions).serve m fixed before).2.1.types.find? t ≠ none ↔
          Asked fixed t before :=
        (find?_serve_ne_none_iff {} m fixed before t).trans (or_iff_left (not_not.2 rfl))
      generalize ({} : Subscriptions).serve m fixed before = state at hasked hstale
      obtain ⟨now, s, m⟩ := state
      have hfollow : ∀ after, (s.record t (s.subscription t).names).follow m fixed after =
          s.follow m fixed after ↔ Asked fixed t before ∨ ¬ PushedFirst fixed t after := by
        intro after
        rw [(s.lists_record t).follow_eq_iff m fixed after, hasked]
      simp only [take_of_stale s m fixed ht hstale, List.append_nil, hfollow, Option.some.injEq,
        forall_eq', and_self, true_and]
      refine ⟨fun _ => trivial, fun h => ?_, fun h _ => Or.inl h⟩
      -- a push comes before any request
      exact (h [.push ⟨"", {}⟩]).resolve_right (not_not.2 trivial)

/-- Clusters are requested and sent, and pushed again. -/
def pushedClusters : List Input :=
  [.request { typeUrl := ResourceType.cluster.url }
      (some (Transcript.routedSnapshot "v1" ["shop"])),
    .push (Transcript.routedSnapshot "v2" ["shop", "blog"])]

/-- The first clusters are accepted after the second were sent. -/
theorem overtaken_unheard :
    Late none (({} : Subscriptions).serve {} none pushedClusters).1
        { typeUrl := ResourceType.cluster.url, nonce := "1" } ∧
      ∀ after, later {} none (pushedClusters ++
          [.request { typeUrl := ResourceType.cluster.url, nonce := "1" } none]) after =
        later {} none pushedClusters after := by
  have htype : typeOf? none { typeUrl := ResourceType.cluster.url, nonce := "1" } =
      some .cluster := by decide +kernel
  have hlate : Late none (({} : Subscriptions).serve {} none pushedClusters).1
      { typeUrl := ResourceType.cluster.url, nonce := "1" } := by
    refine ⟨by decide, fun t ht => ?_⟩
    rw [htype] at ht
    cases ht
    decide +kernel
  refine ⟨hlate, (stale_unheard_iff {} none pushedClusters none hlate).2.2.2 fun t ht => ?_⟩
  rw [htype] at ht
  cases ht
  exact ⟨_, _, List.mem_cons_self, by decide +kernel⟩

/-- Routes that were never sent are accepted. They were not requested, and yet they are pushed from
then on. -/
theorem stale_not_always_unheard :
    ¬ ∀ m fixed before r snapshot, Late fixed (({} : Subscriptions).serve m fixed before).1 r →
      ∀ after, later m fixed (before ++ [.request r snapshot]) after =
        later m fixed before after := by
  intro h
  have hlate : Late none (({} : Subscriptions).serve {} none pushedClusters).1
      { typeUrl := ResourceType.route.url, nonce := "9" } := by
    refine ⟨by decide, fun t ht => ?_⟩
    rw [show typeOf? none { typeUrl := ResourceType.route.url, nonce := "9" } = some .route by
      decide +kernel] at ht
    cases ht
    decide +kernel
  have heard := h {} none pushedClusters _ none hlate
    [.push (Transcript.routedSnapshot "v3" ["shop"])]
  exact absurd heard (by decide +kernel)

end Subscriptions

end WafControl.Discovery
