import Mathlib.Data.List.Forall2
import Mathlib.Data.Option.Basic

/-!
# Lists that are read entry by entry

A list can be read if each of its entries can, and its reading has the readings of the entries, in
order (`mapM_eq_some_iff`). What holds between each entry and its image holds between the lists.
-/

namespace WafControl

variable {α β : Type} {R : α → β → Prop}

theorem forall₂_map_self {f : α → β} (h : ∀ x, R x (f x)) (xs : List α) :
    List.Forall₂ R xs (xs.map f) :=
  List.forall₂_map_right_iff.2 (List.forall₂_same.2 fun x _ => h x)

theorem rel_map_self {f : α → β} (h : ∀ x, R x (f x)) (x : Option α) :
    Option.Rel R x (x.map f) := by
  cases x with
  | none => exact .none
  | some x => exact .some (h x)

theorem mapM_eq_some_iff {f : α → Option β} {xs : List α} {ys : List β} :
    xs.mapM f = some ys ↔ List.Forall₂ (fun x y => f x = some y) xs ys := by
  induction xs generalizing ys with
  | nil => cases ys <;> simp
  | cons x xs ih =>
      rw [List.mapM_cons]
      cases hx : f x with
      | none => cases ys <;> simp [hx]
      | some y =>
          cases hxs : xs.mapM f with
          | none => cases ys <;> simp [hx, ← ih, hxs]
          | some rest => cases ys <;> simp [hx, ← ih, hxs]

theorem mapM_eq_none_iff {f : α → Option β} {xs : List α} :
    xs.mapM f = none ↔ ∃ x ∈ xs, f x = none := by
  induction xs with
  | nil => simp
  | cons x xs ih =>
      rw [List.mapM_cons]
      cases hx : f x with
      | none => simp [hx]
      | some y => cases hxs : xs.mapM f <;> simp [hx, ← ih, hxs]

/-- Each place of the reading holds what was read at that place. -/
theorem getElem?_of_mapM {f : α → Option β} {xs : List α} {ys : List β} (h : xs.mapM f = some ys)
    (i : Nat) : ys[i]? = xs[i]?.bind f := by
  rw [mapM_eq_some_iff] at h
  induction h generalizing i with
  | nil => simp
  | cons hxy _ ih => cases i <;> simp [hxy, ih]

theorem mem_of_mapM {f : α → Option β} {xs : List α} {ys : List β} (h : xs.mapM f = some ys)
    (y : β) : y ∈ ys ↔ ∃ x ∈ xs, f x = some y := by
  simp only [List.mem_iff_getElem?, getElem?_of_mapM h, Option.bind_eq_some_iff]
  exact ⟨fun ⟨i, x, hx, hy⟩ => ⟨x, ⟨i, hx⟩, hy⟩, fun ⟨x, ⟨i, hx⟩, hy⟩ => ⟨i, x, hx, hy⟩⟩

/-- A list that was written entry by entry is read back if each entry is. -/
theorem mapM_map_eq_some {f : α → β} {g : β → Option α} {xs : List α}
    (h : ∀ x ∈ xs, g (f x) = some x) : (xs.map f).mapM g = some xs := by
  rw [mapM_eq_some_iff, List.forall₂_map_left_iff, List.forall₂_same]
  exact h

end WafControl
