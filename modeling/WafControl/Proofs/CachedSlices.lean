import WafControl.Cluster.Informer

/-!
# What an informer caches and forwards

The cache of an informer has every slice under its own key, and every key once. Whatever the
informer takes up, a slice that is cached afterwards was either forwarded just now or cached before,
and nothing else was forwarded under its key (`Forwards`).
-/

namespace WafControl

namespace Table

variable {κ α : Type} [DecidableEq κ]

theorem mem_put {k : κ} {a : α} {es : List (κ × α)} {e : κ × α} (h : e ∈ put k a es) :
    e = (k, a) ∨ e ∈ es := by
  induction es with
  | nil => exact Or.inl (List.mem_singleton.1 h)
  | cons e' es ih =>
      obtain ⟨k', a'⟩ := e'
      rw [put] at h
      split at h
      · rename_i hk
        rcases List.mem_cons.1 h with rfl | hm
        · exact Or.inl (by rw [hk])
        · exact Or.inr (List.mem_cons_of_mem _ hm)
      · rcases List.mem_cons.1 h with rfl | hm
        · exact Or.inr List.mem_cons_self
        · rcases ih hm with he | he
          · exact Or.inl he
          · exact Or.inr (List.mem_cons_of_mem _ he)

theorem nodup_keys_put {k : κ} (a : α) {es : List (κ × α)} (h : (es.map Prod.fst).Nodup) :
    ((put k a es).map Prod.fst).Nodup := by
  induction es with
  | nil => simp [put]
  | cons e es ih =>
      obtain ⟨k', a'⟩ := e
      rw [List.map_cons, List.nodup_cons] at h
      rw [put]
      split
      · rw [List.map_cons, List.nodup_cons]
        exact h
      · rename_i hk
        rw [List.map_cons, List.nodup_cons]
        refine ⟨fun hm => ?_, ih h.2⟩
        obtain ⟨e, he, hfst⟩ := List.mem_map.1 hm
        rcases mem_put he with rfl | he
        · exact hk hfst.symm
        · exact h.1 (hfst ▸ List.mem_map_of_mem he)

theorem mem_of_lookup {k : κ} {a : α} {es : List (κ × α)} (h : lookup k es = some a) :
    (k, a) ∈ es := by
  induction es with
  | nil => cases h
  | cons e es ih =>
      obtain ⟨k', a'⟩ := e
      rw [lookup] at h
      split at h
      · rename_i hk
        cases h
        rw [hk]
        exact List.mem_cons_self
      · exact List.mem_cons_of_mem _ (ih h)

theorem lookup_of_mem {k : κ} {a : α} {es : List (κ × α)} (h : (es.map Prod.fst).Nodup)
    (hm : (k, a) ∈ es) : lookup k es = some a := by
  induction es with
  | nil => exact absurd hm List.not_mem_nil
  | cons e es ih =>
      obtain ⟨k', a'⟩ := e
      rw [List.map_cons, List.nodup_cons] at h
      rw [lookup]
      rcases List.mem_cons.1 hm with heq | hm
      · cases heq
        rw [if_pos rfl]
      · have hk : k' ≠ k := by
          rintro rfl
          exact h.1 (List.mem_map.2 ⟨(k', a), hm, rfl⟩)
        rw [if_neg hk]
        exact ih h.2 hm

theorem lookup_eq_none_iff {k : κ} {es : List (κ × α)} :
    lookup k es = none ↔ k ∉ es.map Prod.fst := by
  induction es with
  | nil => simp [lookup]
  | cons e es ih =>
      obtain ⟨k', a⟩ := e
      by_cases hk : k' = k
      · simp [lookup, hk]
      · simp [lookup, hk, ih, Ne.symm hk]

theorem mem_keys_iff (t : Table κ α) (k : κ) : k ∈ t.keys ↔ t.find? k ≠ none := by
  rw [find?, Ne, lookup_eq_none_iff, Decidable.not_not, keys]

end Table

namespace Informer

/-- Every slice is cached under its own key, and every key once. -/
structure Keyed (i : Informer) : Prop where
  nodup : i.cache.keys.Nodup
  key : ∀ e ∈ i.cache.entries, e.2.key = e.1

theorem keyed_empty : ({} : Informer).Keyed where
  nodup := List.nodup_nil
  key := fun _ h => absurd h List.not_mem_nil

variable {i i' : Informer}

theorem Keyed.key_of_find? (h : i.Keyed) {k : SliceKey} {x : EndpointSlice}
    (hx : i.cache.find? k = some x) : x.key = k :=
  h.key (k, x) (Table.mem_of_lookup hx)

theorem Keyed.find?_of_mem_values (h : i.Keyed) {x : EndpointSlice} (hx : x ∈ i.cache.values) :
    i.cache.find? x.key = some x := by
  obtain ⟨⟨k, y⟩, he, rfl⟩ := List.mem_map.1 hx
  rw [h.key _ he]
  exact Table.lookup_of_mem h.nodup he

theorem mem_values_of_find? {k : SliceKey} {x : EndpointSlice}
    (hx : i.cache.find? k = some x) : x ∈ i.cache.values :=
  List.mem_map_of_mem (Table.mem_of_lookup hx)

theorem Keyed.store (h : i.Keyed) (x : EndpointSlice) : (i.store x).Keyed where
  nodup := Table.nodup_keys_put x h.nodup
  key := by
    intro e he
    rcases Table.mem_put he with rfl | he
    · rfl
    · exact h.key e he

/-- A cache of which entries were removed. -/
theorem Keyed.of_filter (h : i.Keyed) {p : SliceKey × EndpointSlice → Bool}
    (hc : i'.cache.entries = i.cache.entries.filter p) : i'.Keyed where
  nodup := by
    rw [Table.keys, hc]
    exact h.nodup.sublist (List.filter_sublist.map Prod.fst)
  key := fun e he => h.key e (List.mem_filter.1 (hc ▸ he)).1

theorem find?_store_of_ne (i : Informer) {x : EndpointSlice} {k : SliceKey} (h : k ≠ x.key) :
    (i.store x).cache.find? k = i.cache.find? k :=
  Table.find?_insert_of_ne i.cache h x

/-! ### What is forwarded -/

/-- The informer forwarded slices, and its cache became another. A slice that is cached then was
forwarded or cached before, and no other one was forwarded under its key. -/
structure Forwards (i : Informer) (slices : List EndpointSlice) (i' : Informer) : Prop where
  keyed : i'.Keyed
  only : ∀ k x, i'.cache.find? k = some x → ∀ y ∈ slices, y.key = k → y = x
  sent_or_kept : ∀ k x, i'.cache.find? k = some x →
    (∃ y ∈ slices, y.key = k) ∨ i.cache.find? k = some x

theorem forwards_store (h : i.Keyed) (x : EndpointSlice) {listing : Option (List SliceKey)} :
    i.Forwards [x] { i.store x with listing } where
  keyed := ⟨(h.store x).nodup, (h.store x).key⟩
  only := by
    intro k y hy z hz hk
    rw [List.mem_singleton] at hz
    subst hz hk
    exact Option.some.inj ((Table.find?_insert_self i.cache z.key z).symm.trans hy)
  sent_or_kept := by
    intro k y hy
    by_cases hk : k = x.key
    · exact Or.inl ⟨x, List.mem_singleton_self x, hk.symm⟩
    · exact Or.inr ((i.find?_store_of_ne hk).symm.trans hy)

/-- Nothing is forwarded when slices leave the cache. -/
theorem forwards_filterKeys (h : i.Keyed) (p : SliceKey → Bool)
    {listing : Option (List SliceKey)} :
    i.Forwards [] { cache := i.cache.filterKeys p, listing } where
  keyed := h.of_filter rfl
  only := fun _ _ _ _ hy => absurd hy List.not_mem_nil
  sent_or_kept := by
    intro k x hx
    rw [Table.find?_filterKeys] at hx
    split at hx
    · exact Or.inr hx
    · cases hx

theorem forwards_nothing (h : i.Keyed) (hc : i'.cache = i.cache) : i.Forwards [] i' where
  keyed := ⟨hc ▸ h.nodup, hc ▸ h.key⟩
  only := fun _ _ _ _ hy => absurd hy List.not_mem_nil
  sent_or_kept := fun _ _ hx => Or.inr (hc ▸ hx)

theorem forwards_handle (h : i.Keyed) (e : WatchEvent EndpointSlice) :
    i.Forwards (i.handle e).1 (i.handle e).2 := by
  cases e with
  | init => exact forwards_nothing h rfl
  | initApply x => exact forwards_store h x
  | initDone =>
      cases hl : i.listing with
      | none =>
          simp only [handle, hl]
          exact forwards_nothing h rfl
      | some keys =>
          simp only [handle, hl]
          exact forwards_filterKeys h _
  | apply x => exact forwards_store h x
  | delete x => exact forwards_filterKeys h fun k => decide (k ≠ x.key)

/-- Slices that are cached may be forwarded again. -/
theorem forwards_cached (h : i.Keyed) {slices : List EndpointSlice}
    (hs : ∀ x ∈ slices, x ∈ i.cache.values) : i.Forwards slices i where
  keyed := h
  only := by
    intro k x hx y hy hk
    have := h.find?_of_mem_values (hs y hy)
    rw [hk, hx] at this
    exact (Option.some.inj this).symm
  sent_or_kept := fun _ _ hx => Or.inr hx

/-- If the last slice that was forwarded under a cached key is the cached one, it still is. The
slices are listed with the latest first. -/
theorem Forwards.latest {slices trail : List EndpointSlice} (hf : i.Forwards slices i')
    (h : ∀ k x, i.cache.find? k = some x → (trail.find? fun y => decide (y.key = k)) = some x) :
    ∀ k x, i'.cache.find? k = some x →
      ((slices.reverse ++ trail).find? fun y => decide (y.key = k)) = some x := by
  intro k x hx
  rw [List.find?_append]
  -- what is forwarded now comes after all that was
  cases hl : slices.reverse.find? fun y => decide (y.key = k) with
  | some y =>
      have hmem := List.mem_reverse.1 (List.mem_of_find?_eq_some hl)
      have hkey : y.key = k := by simpa using List.find?_some hl
      rw [hf.only k x hx y hmem hkey]
      rfl
  | none =>
      rcases hf.sent_or_kept k x hx with ⟨y, hy, hk⟩ | hkept
      · have hne := List.find?_eq_none.1 hl y (List.mem_reverse.2 hy)
        exact absurd (decide_eq_true hk) hne
      · exact h k x hkept

theorem mem_replay_iff {keep : String → Bool} {x : EndpointSlice} :
    x ∈ i.replay keep ↔
      x ∈ i.cache.values ∧ ∃ fqdn, x.serviceFqdn? = some fqdn ∧ keep fqdn = true := by
  rw [replay, List.mem_filter, Option.any_eq_true]

theorem mem_replayHosts_iff {hosts : List String} {x : EndpointSlice} :
    x ∈ i.replayHosts hosts ↔
      x ∈ i.cache.values ∧ ∃ fqdn, x.serviceFqdn? = some fqdn ∧ fqdn ∈ hosts := by
  rw [replayHosts, mem_replay_iff]
  simp only [decide_eq_true_eq]

end Informer

end WafControl
