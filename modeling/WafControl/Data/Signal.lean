/-!
# Signals

A signal holds a value of which only the latest is kept, and counts how often one was set. A
reader that remembers the count it last saw knows whether a value was set since; setting an equal
value counts as well. Values set one right after the other are seen as one.
-/

namespace WafControl

/-- The latest of the values set, and their number. -/
structure Signal (α : Type) where
  latest : α
  sets : Nat := 0
  deriving DecidableEq, Repr

namespace Signal

variable {α : Type}

def set (s : Signal α) (a : α) : Signal α := ⟨a, s.sets + 1⟩

/-- Whether a value was set after the first `seen` ones. -/
def changedSince (s : Signal α) (seen : Nat) : Bool := s.sets != seen

@[simp] theorem latest_set (s : Signal α) (a : α) : (s.set a).latest = a := rfl

theorem sets_set (s : Signal α) (a : α) : (s.set a).sets = s.sets + 1 := rfl

end Signal

end WafControl
