import WafControl.Proofs.Subscribing

/-!
# What a snapshot pushes

A snapshot is pushed to the types that are listed and were last sent another version. Each of them
gets one response, clusters first, with the resources that its recorded names ask for. No response
changes what another is made from: the names stay (`SameNames`), and of the versions only that of
the type that is sent is set. So the types are up to date afterwards, and the same snapshot is
pushed to none of them again (`push_exact`).
-/

namespace WafControl.Discovery

/-- The resources of a type that a snapshot has under the names; no names stand for all. -/
def named (x : Snapshot) (names : List String) : ResourceType → List Resource
  | .cluster => (x.resources.clusters.filter fun c => names = [] ∨ c.name ∈ names).map .cluster
  | .listener => (x.resources.listeners.filter fun l => names = [] ∨ l.name ∈ names).map .listener
  | .route => (x.resources.routes.filter fun rc => names = [] ∨ rc.name ∈ names).map .route
  | .endpoint => []
  | .secret => []
  | .runtime => []

theorem wanted_eq (names : List String) (name : String) :
    wanted names name = decide (names = [] ∨ name ∈ names) := by
  cases names <;> simp [wanted]

theorem served_eq_named (x : Snapshot) (names : List String) (t : ResourceType) :
    served x.resources t names = named x names t := by
  cases t <;> simp [served, allOf, named, List.filter_map, Function.comp_def, Resource.name,
    wanted_eq]

namespace Subscriptions

/-- The types that are listed are the same, and so are the names recorded for them. -/
def SameNames (s s' : Subscriptions) : Prop :=
  ∀ t, (s'.types.find? t).map Subscription.names = (s.types.find? t).map Subscription.names

namespace SameNames

variable {s s' s'' : Subscriptions}

theorem refl (s : Subscriptions) : SameNames s s := fun _ => rfl

theorem trans (h : SameNames s s') (h' : SameNames s' s'') : SameNames s s'' :=
  fun t => (h' t).trans (h t)

theorem subscription (h : SameNames s s') (t : ResourceType) :
    (s'.subscription t).names = (s.subscription t).names := by
  have hnames : ∀ u : Subscriptions,
      (u.subscription t).names = ((u.types.find? t).map Subscription.names).getD [] := by
    intro u
    cases hu : u.types.find? t <;> simp [Subscriptions.subscription, hu]
  rw [hnames, hnames, h t]

theorem find?_ne_none_iff (h : SameNames s s') (t : ResourceType) :
    s'.types.find? t ≠ none ↔ s.types.find? t ≠ none := by
  rw [ne_eq, ne_eq, ← Option.map_eq_none_iff, h t, Option.map_eq_none_iff]

/-- A type that is listed is sent with its names. -/
theorem sent {t : ResourceType} (h : s.types.find? t ≠ none) (x : Snapshot) :
    SameNames s (s.sent t x) := by
  intro t'
  by_cases ht : t' = t
  · subst ht
    obtain ⟨sub, hsub⟩ := Option.ne_none_iff_exists'.1 h
    simp [Subscriptions.sent, Subscriptions.subscription, hsub]
  · rw [Subscriptions.sent, Table.find?_insert_of_ne _ ht]

end SameNames

variable (s : Subscriptions) (m : Counts) (x : Snapshot)

theorem sameNames_handleSnapshot : SameNames s (s.handleSnapshot m x).2.1 := by
  refine @pushAll_induction x (fun _ s' => SameNames s s') _ ?_ m s (SameNames.refl s)
  intro _ s' t ht h
  have hlisted := (s.outdated_eq_true_iff.1 (List.mem_filter.1 ht).2).1
  exact h.trans (SameNames.sent ((h.find?_ne_none_iff t).2 hlisted) x)

/-- Each response is made from the names that were recorded before the push. -/
theorem resources_of_mem_handleSnapshot : ∀ a ∈ (s.handleSnapshot m x).1,
    a.resources = served x.resources a.type (s.subscription a.type).names := by
  refine (@pushAll_induction x (fun rs s' => SameNames s s' ∧ ∀ a ∈ rs,
    a.resources = served x.resources a.type (s.subscription a.type).names) _ ?_ m s
    ⟨SameNames.refl s, nofun⟩).2
  rintro rs s' t ht ⟨h, hrs⟩
  have hlisted := (s.outdated_eq_true_iff.1 (List.mem_filter.1 ht).2).1
  refine ⟨h.trans (SameNames.sent ((h.find?_ne_none_iff t).2 hlisted) x),
    List.forall_mem_append.2 ⟨hrs, List.forall_mem_singleton.2 ?_⟩⟩
  exact congrArg (served x.resources t) (h.subscription t)

/-- After a push, every type that is listed was last sent the snapshot's version. -/
theorem outdated_handleSnapshot (t : ResourceType) :
    (s.handleSnapshot m x).2.1.outdated x.version t = false := by
  rw [Bool.eq_false_iff, ne_eq, outdated_eq_true_iff]
  rintro ⟨hlisted, hne⟩
  refine hne ?_
  rw [handleSnapshot, sentVersion_pushAll]
  split
  · rfl
  · rename_i ht
    -- a type that is not pushed was sent the version before
    refine s.sentVersion_of_outdated_eq_false ?_ ?_
    · simpa [ResourceType.mem_pushOrder t] using ht
    · exact (s.find?_handleSnapshot_ne_none_iff m x).1 hlisted

theorem handleSnapshot_again (m' : Counts) :
    (s.handleSnapshot m x).2.1.handleSnapshot m' x = ([], (s.handleSnapshot m x).2.1, m') := by
  have hnone : ResourceType.pushOrder.filter
      ((s.handleSnapshot m x).2.1.outdated x.version) = [] :=
    List.filter_eq_nil_iff.2 fun t _ => by simp [s.outdated_handleSnapshot m x t]
  rw [handleSnapshot, hnone, pushAll]

/-- Whether a type is listed and was last sent another version. -/
def Behind (t : ResourceType) : Prop :=
  ∃ sub, s.types.find? t = some sub ∧ sub.sentVersion ≠ some x.version

theorem behind_iff (t : ResourceType) : s.Behind x t ↔ s.outdated x.version t = true := by
  cases h : s.types.find? t <;> simp [Behind, outdated, h]

/-- A snapshot is pushed once to each type that is listed and was last sent another version, and to
no other type, in a fixed order. Each response holds the resources of its type under the names that
are recorded for it. The names stay, the types that are listed are up to date, and the same snapshot
is not pushed again. -/
theorem push_exact (s : Subscriptions) (m : Counts) (x : Snapshot) :
    let pushed := (s.handleSnapshot m x).1
    let after := (s.handleSnapshot m x).2.1
    (pushed.map Response.type).Sublist [.cluster, .endpoint, .listener, .route, .secret, .runtime] ∧
      (pushed.map Response.type).Nodup ∧
      (∀ t, t ∈ pushed.map Response.type ↔ s.Behind x t) ∧
      (∀ a ∈ pushed, ∃ sub, s.types.find? a.type = some sub ∧ a.version = x.version ∧
        a.resources = named x sub.names a.type) ∧
      (∀ t sub, after.types.find? t = some sub → sub.sentVersion = some x.version) ∧
      (∀ t, (after.types.find? t).map Subscription.names =
        (s.types.find? t).map Subscription.names) ∧
      ∀ m', after.handleSnapshot m' x = ([], after, m') := by
  intro pushed after
  have htypes : pushed.map Response.type =
      ResourceType.pushOrder.filter (s.outdated x.version) := s.map_type_handleSnapshot m x
  have hmem : ∀ t, t ∈ pushed.map Response.type ↔ s.Behind x t := by
    intro t
    rw [htypes, List.mem_filter, behind_iff]
    exact and_iff_right t.mem_pushOrder
  have hsub : (pushed.map Response.type).Sublist ResourceType.pushOrder := by
    rw [htypes]
    exact List.filter_sublist
  refine ⟨hsub, hsub.nodup (by decide), hmem, fun a ha => ?_, fun t sub ht => ?_,
    s.sameNames_handleSnapshot m x, s.handleSnapshot_again m x⟩
  · obtain ⟨sub, hfind, -⟩ := (hmem a.type).1 (List.mem_map_of_mem ha)
    refine ⟨sub, hfind, s.version_of_mem_pushAll m x _ a ha, ?_⟩
    have hres := s.resources_of_mem_handleSnapshot m x a ha
    rw [hres, served_eq_named, subscription, hfind, Option.getD_some]
  · have hcurrent := s.outdated_handleSnapshot m x t
    simpa [outdated, after, ht] using hcurrent

end Subscriptions

end WafControl.Discovery
