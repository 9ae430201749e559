/-!
# Steps that can fail

A computation that succeeds took each of its steps with success (`exists_ok_of_bind`,
`exists_ok_of_map`). Conversely, moves that succeed wherever a property holds, and keep it, can be
made one after the other (`exists_ok_of_foldlM`).
-/

namespace WafControl

variable {ε α β : Type}

theorem exists_ok_of_bind {x : Except ε α} {f : α → Except ε β} {b : β} (h : x >>= f = .ok b) :
    ∃ a, x = .ok a ∧ f a = .ok b := by
  cases x with
  | error e => cases h
  | ok a => exact ⟨a, rfl, h⟩

theorem exists_ok_of_map {x : Except ε α} {f : α → β} {b : β} (h : x.map f = .ok b) :
    ∃ a, x = .ok a ∧ f a = b := by
  cases x with
  | error e => cases h
  | ok a => exact ⟨a, rfl, Except.ok.inj h⟩

/-- The invariant of moves that can fail: where it holds they do not, and it holds after them. -/
theorem exists_ok_of_foldlM {f : α → β → Except ε α} {P : α → Prop}
    (hmove : ∀ s m, P s → ∃ next, f s m = .ok next ∧ P next) (moves : List β) {s : α} (h : P s) :
    ∃ last, moves.foldlM f s = .ok last ∧ P last := by
  induction moves generalizing s with
  | nil => exact ⟨s, rfl, h⟩
  | cons m moves ih =>
      obtain ⟨next, hnext, hkept⟩ := hmove s m h
      obtain ⟨last, hlast, hkept⟩ := ih hkept
      refine ⟨last, ?_, hkept⟩
      rw [List.foldlM_cons, hnext]
      exact hlast

end WafControl
