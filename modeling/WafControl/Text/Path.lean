/-!
# Paths

A path is a text with slashes. Its components stand between the slashes; empty ones and single dots
do not count, except for a dot at the front of a relative path. An absolute path begins with a
slash, and has a component for that. Two paths with the same components lead to the same place.

`Path.join` puts one path behind another.
-/

namespace WafControl

namespace Path

/-- What a path consists of. -/
inductive Component where
  /-- The slash at the front of an absolute path. -/
  | root
  /-- The dot at the front of a relative path. -/
  | here
  /-- Two dots. -/
  | up
  | name (s : List Char)
  deriving DecidableEq, Repr

def Component.ofName (s : List Char) : Component := if s = ['.', '.'] then up else name s

/-- What stands between the slashes. -/
def pieces : List Char → List (List Char)
  | [] => [[]]
  | c :: cs => if c = '/' then [] :: pieces cs else (pieces cs).modifyHead (c :: ·)

def counts (piece : List Char) : Bool := decide (piece ≠ [] ∧ piece ≠ ['.'])

/-- The pieces that count. -/
def names (cs : List Char) : List (List Char) := (pieces cs).filter counts

/-- The component that a path begins with, besides the pieces that count. -/
def lead : List Char → List Component
  | '/' :: _ => [.root]
  | ['.'] => [.here]
  | '.' :: '/' :: _ => [.here]
  | _ => []

def componentsOf (cs : List Char) : List Component := lead cs ++ (names cs).map .ofName

def components (path : String) : List Component := componentsOf path.toList

def isAbsolute (path : String) : Bool := path.toList.head? == some '/'

/-- A path behind another one, with a slash in between if there is none yet. Nothing is put in front
of an absolute path. -/
def join (base rest : String) : String :=
  if isAbsolute rest then rest
  else
    match base.toList.getLast? with
    | none => rest
    | some c => if c = '/' then base ++ rest else base ++ "/" ++ rest

/-! ### Pieces -/

theorem pieces_slash (cs : List Char) : pieces ('/' :: cs) = [] :: pieces cs := if_pos rfl

theorem pieces_cons_of_ne {c : Char} (h : c ≠ '/') (cs : List Char) :
    pieces (c :: cs) = (pieces cs).modifyHead (c :: ·) := if_neg h

theorem pieces_ne_nil (cs : List Char) : pieces cs ≠ [] := by
  induction cs with
  | nil => exact List.cons_ne_nil _ _
  | cons c cs ih =>
      by_cases h : c = '/'
      · subst h
        rw [pieces_slash]
        exact List.cons_ne_nil _ _
      · obtain ⟨p, ps, hp⟩ := List.exists_cons_of_ne_nil ih
        rw [pieces_cons_of_ne h, hp]
        exact List.cons_ne_nil _ _

theorem pieces_append_slash (cs ds : List Char) :
    pieces (cs ++ '/' :: ds) = pieces cs ++ pieces ds := by
  induction cs with
  | nil => exact pieces_slash ds
  | cons c cs ih =>
      by_cases h : c = '/'
      · subst h
        rw [List.cons_append, pieces_slash, pieces_slash, ih, List.cons_append]
      · obtain ⟨p, ps, hp⟩ := List.exists_cons_of_ne_nil (pieces_ne_nil cs)
        rw [List.cons_append, pieces_cons_of_ne h, pieces_cons_of_ne h, ih, hp]
        rfl

/-- A character behind a path that is no slash belongs to its last piece. -/
theorem pieces_concat_of_ne {c : Char} (h : c ≠ '/') {cs : List Char} {ps : List (List Char)}
    {p : List Char} (hp : pieces cs = ps ++ [p]) : pieces (cs ++ [c]) = ps ++ [p ++ [c]] := by
  induction cs generalizing ps p with
  | nil =>
      have hsplit : [] ++ [[]] = ps ++ [p] := hp
      obtain ⟨rfl, hlast⟩ := List.append_inj' hsplit rfl
      cases hlast
      exact pieces_cons_of_ne h []
  | cons d cs ih =>
      obtain ⟨init, last, hlast⟩ : ∃ init last, pieces cs = init ++ [last] :=
        ⟨_, _, (List.dropLast_concat_getLast (pieces_ne_nil cs)).symm⟩
      by_cases hd : d = '/'
      · subst hd
        rw [pieces_slash, hlast, ← List.cons_append] at hp
        obtain ⟨rfl, heq⟩ := List.append_inj' hp rfl
        cases heq
        rw [List.cons_append, pieces_slash, ih hlast, List.cons_append]
      · rw [pieces_cons_of_ne hd, hlast] at hp
        rw [List.cons_append, pieces_cons_of_ne hd, ih hlast]
        cases init with
        | nil =>
            have hsplit : [] ++ [d :: last] = ps ++ [p] := hp
            obtain ⟨rfl, heq⟩ := List.append_inj' hsplit rfl
            cases heq
            rfl
        | cons q qs =>
            have hsplit : ((d :: q) :: qs) ++ [last] = ps ++ [p] := hp
            obtain ⟨rfl, heq⟩ := List.append_inj' hsplit rfl
            cases heq
            rfl

theorem pieces_reverse (cs : List Char) :
    pieces cs.reverse = ((pieces cs).map List.reverse).reverse := by
  induction cs with
  | nil => rfl
  | cons c cs ih =>
      rw [List.reverse_cons]
      by_cases h : c = '/'
      · subst h
        rw [pieces_append_slash, ih, pieces_slash, List.map_cons, List.reverse_cons]
        rfl
      · obtain ⟨p, ps, hp⟩ := List.exists_cons_of_ne_nil (pieces_ne_nil cs)
        rw [hp, List.map_cons, List.reverse_cons] at ih
        rw [pieces_concat_of_ne h ih, pieces_cons_of_ne h, hp, List.modifyHead_cons, List.map_cons,
          List.reverse_cons, List.reverse_cons]

theorem names_append_slash (cs ds : List Char) :
    names (cs ++ '/' :: ds) = names cs ++ names ds := by
  rw [names, pieces_append_slash, List.filter_append, names, names]

theorem counts_reverse (piece : List Char) : counts piece.reverse = counts piece := by
  simp only [counts, ne_eq, List.reverse_eq_iff, List.reverse_nil, List.reverse_singleton]

theorem names_reverse (cs : List Char) :
    names cs.reverse = ((names cs).map List.reverse).reverse := by
  have hcounts : counts ∘ List.reverse = counts := funext counts_reverse
  rw [names, pieces_reverse, List.filter_reverse, List.filter_map, hcounts, names]

end Path

end WafControl
