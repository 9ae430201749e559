import WafControl.Proofs.AgentSteps

/-!
# The announced hosts and the store

Once the poller has seen the current token, the announced hosts are those of the current
protections: no other token that it may still have read can be the current one, since a change gives
the store a token that it never had (`Announced`). Once the announcement has been heeded too, every
cached slice of one of these hosts is on its way to the router, or was routed since the store last
changed.
-/

namespace WafControl

theorem mem_insertSorted {s t : String} {ts : List String} :
    t ∈ insertSorted s ts ↔ t = s ∨ t ∈ ts := by
  induction ts with
  | nil => simp [insertSorted]
  | cons u us ih =>
      rw [insertSorted]
      split
      · rename_i h
        subst h
        simp
      · split
        · simp
        · simp only [List.mem_cons, ih]
          exact or_left_comm

theorem mem_foldl_insertSorted {h : String} {hs hosts : List String} :
    h ∈ hs.foldl (fun hosts h => if h = "" then hosts else insertSorted h hosts) hosts ↔
      h ∈ hosts ∨ h ≠ "" ∧ h ∈ hs := by
  induction hs generalizing hosts with
  | nil => simp
  | cons g gs ih =>
      rw [List.foldl_cons, ih]
      split
      · rename_i hg
        subst hg
        constructor
        · rintro (hm | ⟨hne, hm⟩)
          · exact Or.inl hm
          · exact Or.inr ⟨hne, List.mem_cons_of_mem _ hm⟩
        · rintro (hm | ⟨hne, hm⟩)
          · exact Or.inl hm
          · exact Or.inr ⟨hne, (List.mem_cons.1 hm).resolve_left hne⟩
      · rename_i hg
        rw [mem_insertSorted]
        constructor
        · rintro ((rfl | hm) | ⟨hne, hm⟩)
          · exact Or.inr ⟨hg, List.mem_cons_self⟩
          · exact Or.inl hm
          · exact Or.inr ⟨hne, List.mem_cons_of_mem _ hm⟩
        · rintro (hm | ⟨hne, hm⟩)
          · exact Or.inl (Or.inr hm)
          · rcases List.mem_cons.1 hm with rfl | hm
            · exact Or.inl (Or.inl rfl)
            · exact Or.inr ⟨hne, hm⟩

/-- The hosts of protections are all but the empty one. -/
theorem mem_upstreamHosts_of_mem {ps : List Protection} {p : Protection} (hp : p ∈ ps)
    (hne : p.upstreamHost ≠ "") : p.upstreamHost ∈ upstreamHosts ps := by
  refine mem_foldl_insertSorted.2 (Or.inr ⟨hne, List.mem_filterMap.2 ⟨p, hp, ?_⟩⟩)
  rw [Protection.upstreamHost] at hne ⊢
  cases h : p.ingress?.map fun found => found.2.upstreamHost with
  | none =>
      rw [h] at hne
      exact absurd rfl hne
  | some host => rfl

theorem EndpointSlice.serviceFqdn?_ne_empty {slice : EndpointSlice} {fqdn : String}
    (h : slice.serviceFqdn? = some fqdn) : fqdn ≠ "" := by
  rw [serviceFqdn?] at h
  cases ho : slice.owners.head? with
  | none => simp [ho] at h
  | some owner =>
      cases hn : slice.namespaceName with
      | none => simp [ho, hn] at h
      | some namespaceName =>
          simp only [ho, hn, Option.bind_eq_bind, Option.bind_some] at h
          split at h
          · rintro rfl
            have hlen := congrArg String.length (Option.some.inj h)
            simp [String.length_append] at hlen
          · cases h

namespace AgentParts

variable {σ : Type}

/-- Every cached slice of an announced host is on its way to the router, or was routed since the
store last changed. -/
def Covered (s : AgentParts σ) : Prop :=
  ∀ k x fqdn, s.informer.cache.find? k = some x → x.serviceFqdn? = some fqdn →
    fqdn ∈ s.hosts.latest → ∃ y ∈ s.recent, y.key = k

/-- The tokens that the poller knows are tokens that the store has had. -/
structure Known (s : AgentParts σ) : Prop where
  version : s.store.version ∈ s.tokens
  pending : ∀ token, s.poll = .listing token → token ∈ s.tokens
  seen : ∀ token, s.poller.lastSeen = some token → token ∈ s.tokens

/-- While the last token seen is the current one, the announced hosts are the current ones, and once
they are heeded, they are covered. -/
structure Announced (s : AgentParts σ) : Prop where
  known : s.Known
  filter : s.poller.filter = .all
  seen_le : s.hostsSeen ≤ s.hosts.sets
  hosts : s.poller.lastSeen = some s.store.version →
    s.hosts.latest = upstreamHosts s.store.protections
  covered : s.poller.lastSeen = some s.store.version → s.hostsSeen = s.hosts.sets → s.Covered

theorem announced_start (store : Store) (capacity : Nat) (node : Supervised σ) :
    (start store capacity node).Announced where
  known :=
    { version := List.mem_singleton_self _
      pending := fun _ h => by cases h
      seen := fun _ h => by cases h }
  filter := rfl
  seen_le := Nat.le_refl 0
  hosts := fun h => by cases h
  covered := fun h => by cases h

variable {r : Router} {s s' : AgentParts σ}

theorem Steady.announced (h' : Steady r s s') (h : s.Announced) : s'.Announced where
  known :=
    { version := by
        rw [h'.version, h'.tokens]
        exact h.known.version
      pending := by
        intro token hp
        rw [h'.tokens]
        rcases h'.poll token hp with hp | rfl
        · exact h.known.pending token hp
        · exact h.known.version
      seen := by
        rw [h'.tokens, h'.poller]
        exact h.known.seen }
  filter := h'.poller ▸ h.filter
  seen_le := by
    rw [h'.hostsSeen, h'.hosts]
    exact h.seen_le
  hosts := by
    rw [h'.poller, h'.version, h'.hosts, h'.protections]
    exact h.hosts
  covered := by
    rw [h'.poller, h'.version, h'.hosts, h'.hostsSeen]
    intro hl hs k x fqdn
    rw [h'.informer, h'.hosts, h'.recent]
    exact h.covered hl hs k x fqdn

/-- A slice that is cached after the informer took something up is on its way already, if those of
announced hosts were before. -/
theorem Covered.forward {slices : List EndpointSlice} {informer : Informer} (h : s.Covered)
    (hu : s.unsent = []) (hf : s.informer.Forwards slices informer) :
    (s.forward slices informer).Covered := by
  intro k x fqdn hx hfqdn hm
  rw [recent_forward informer hu]
  rcases hf.sent_or_kept k x hx with ⟨y, hy, hk⟩ | hkept
  · exact ⟨y, List.mem_append_left _ (List.mem_reverse.2 hy), hk⟩
  · obtain ⟨y, hy, hk⟩ := h k x fqdn hkept hfqdn hm
    exact ⟨y, List.mem_append_right _ hy, hk⟩

/-- To heed an announcement is to forward what it covers. -/
theorem covered_of_heeded {slices : List EndpointSlice} (hk : s.informer.Keyed)
    (hu : s.unsent = []) (hp : slices.Perm (s.informer.replayHosts s.hosts.latest)) :
    (s.forward slices s.informer).Covered := by
  intro k x fqdn hx hfqdn hm
  rw [recent_forward s.informer hu]
  refine ⟨x, List.mem_append_left _ (List.mem_reverse.2 ?_), hk.key_of_find? hx⟩
  refine hp.mem_iff.2 (Informer.mem_replayHosts_iff.2 ⟨?_, fqdn, hfqdn, hm⟩)
  exact Informer.mem_values_of_find? hx

theorem Stepped.announced (hs : Stepped r s s') (hk : s.informer.Keyed) (h : s.Announced) :
    s'.Announced := by
  cases hs with
  | steady h' => exact h'.announced h
  | changed token ps fresh =>
      -- a token that is new cannot have been seen
      have hne : s.poller.lastSeen ≠ some token := fun hl => fresh (h.known.seen token hl)
      exact
        { known :=
            { version := List.mem_cons_self
              pending := fun t ht => List.mem_cons_of_mem _ (h.known.pending t ht)
              seen := fun t ht => List.mem_cons_of_mem _ (h.known.seen t ht) }
          filter := h.filter
          seen_le := h.seen_le
          hosts := fun hl => absurd hl hne
          covered := fun hl => absurd hl hne }
  | listed token pending =>
      exact
        { known :=
            { version := h.known.version
              pending := fun t ht => by cases ht
              seen := fun t ht => by
                cases ht
                exact h.known.pending token pending }
          filter := h.filter
          seen_le := Nat.le_succ_of_le h.seen_le
          hosts := fun _ => by
            simp only [Signal.latest_set, h.filter, Filter.select_all]
            rfl
          -- the announcement has not been heeded yet
          covered := fun _ hsets => by
            have := h.seen_le
            simp only [Signal.sets_set] at hsets
            omega }
  | forwarded slices informer ready forwards =>
      exact
        { known := ⟨h.known.version, h.known.pending, h.known.seen⟩
          filter := h.filter
          seen_le := h.seen_le
          hosts := h.hosts
          covered := fun hl hsets => (h.covered hl hsets).forward ready forwards }
  | heeded slices ready replayed =>
      have hc := covered_of_heeded hk ready replayed
      exact
        { known := ⟨h.known.version, h.known.pending, h.known.seen⟩
          filter := h.filter
          seen_le := Nat.le_refl _
          hosts := h.hosts
          covered := fun _ _ => hc }

end AgentParts

end WafControl
