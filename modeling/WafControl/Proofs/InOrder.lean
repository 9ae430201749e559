import Mathlib.Data.List.Induction

/-!
# Lists in order of place

`InOrder found xs` says that `xs` lists what is found at the places that qualify, in the order of
these places and each once. A list that grows at its end stays so if nothing is found at a later
place (`InOrder.concat`).
-/

namespace WafControl

/-- The list holds what is found at each place, in the order of the places. -/
def InOrder {α : Type} (found : Nat → α → Prop) (xs : List α) : Prop :=
  ∃ places : List (Nat × α), places.Pairwise (fun a b => a.1 < b.1) ∧
    (∀ i x, (i, x) ∈ places ↔ found i x) ∧ xs = places.map Prod.snd

namespace InOrder

variable {α β : Type} {found found' : Nat → α → Prop} {xs : List α}

theorem nil (h : ∀ i x, ¬ found i x) : InOrder found [] :=
  ⟨[], List.Pairwise.nil, by simpa using h, rfl⟩

/-- What is found at a further place comes last. -/
theorem concat {n : Nat} {last : Option α} (h : InOrder found xs)
    (hlt : ∀ i x, found i x → i < n)
    (hfound : ∀ i x, found' i x ↔ found i x ∨ i = n ∧ last = some x) :
    InOrder found' (xs ++ last.toList) := by
  obtain ⟨places, hsorted, hmem, rfl⟩ := h
  refine ⟨places ++ (last.map fun x => (n, x)).toList, ?_, fun i x => ?_, ?_⟩
  · refine List.pairwise_append.2 ⟨hsorted, ?_, ?_⟩
    · cases last <;> simp
    · rintro ⟨i, x⟩ hx b hb
      obtain ⟨y, -, rfl⟩ := Option.map_eq_some_iff.1 (Option.mem_toList.1 hb)
      exact hlt i x ((hmem i x).1 hx)
  · rw [List.mem_append, hmem, hfound, Option.mem_toList, Option.map_eq_some_iff]
    refine or_congr_right ⟨?_, ?_⟩
    · rintro ⟨y, hy, heq⟩
      cases heq
      exact ⟨rfl, hy⟩
    · rintro ⟨rfl, hx⟩
      exact ⟨x, hx, rfl⟩
  · cases last <;> simp

theorem congr (h : InOrder found xs) (hfound : ∀ i x, found i x ↔ found' i x) :
    InOrder found' xs := by
  obtain ⟨places, hsorted, hmem, hxs⟩ := h
  exact ⟨places, hsorted, fun i x => (hmem i x).trans (hfound i x), hxs⟩

/-- What is listed is what is found somewhere. -/
theorem mem_iff (h : InOrder found xs) (x : α) : x ∈ xs ↔ ∃ i, found i x := by
  obtain ⟨places, -, hmem, rfl⟩ := h
  simp [hmem]

/-- The entries of a list that has grown at its end. -/
theorem getElem?_concat_iff (ys : List β) (y z : β) (i : Nat) :
    (ys ++ [y])[i]? = some z ↔ ys[i]? = some z ∨ i = ys.length ∧ y = z := by
  rcases Nat.lt_trichotomy i ys.length with hi | rfl | hi
  · simp [List.getElem?_append_left hi, Nat.ne_of_lt hi]
  · simp
  · have hi' : (ys ++ [y]).length ≤ i := by simpa using Nat.succ_le_of_lt hi
    simp [List.getElem?_eq_none hi', List.getElem?_eq_none (Nat.le_of_lt hi), Nat.ne_of_gt hi]

/-- A function picks from a list in the order of the list. -/
theorem filterMap (f : β → Option α) (ys : List β) :
    InOrder (fun i x => ∃ y, ys[i]? = some y ∧ f y = some x) (ys.filterMap f) := by
  induction ys using List.reverseRecOn with
  | nil => exact nil (by simp)
  | append_singleton ys y ih =>
      rw [List.filterMap_append, show [y].filterMap f = (f y).toList by cases h : f y <;> simp [h]]
      refine ih.concat (n := ys.length) ?_ fun i x => ?_
      · rintro i x ⟨y, hy, -⟩
        exact (List.getElem?_eq_some_iff.1 hy).1
      · simp [getElem?_concat_iff, or_and_right, exists_or, and_assoc]

end InOrder

end WafControl
