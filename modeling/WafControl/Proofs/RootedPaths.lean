import WafControl.Workload.RuntimeInfo

/-!
# Paths below a root

An absolute path is taken below a root by dropping its first slash, and with it the slashes and
single dots at its ends. None of what is dropped is a component, so the components of the result are
those of the root and then those of the path (`components_below`), whatever slashes and dots the two
are written with. Paths with different components stay different.
-/

namespace WafControl

namespace Path

variable {base rest path : String} {cs ds : List Char}

/-- The path has the name of a component in front, or none at all. -/
structure Begun (cs : List Char) : Prop where
  slash : ∀ rest, cs ≠ '/' :: rest
  dot : ∀ rest, cs ≠ '.' :: '/' :: rest
  single : cs ≠ ['.']

theorem lead_eq_nil (h : Begun cs) : lead cs = [] := by
  unfold lead
  split
  · exact absurd rfl (h.slash _)
  · exact absurd rfl h.single
  · exact absurd rfl (h.dot _)
  · rfl

theorem Begun.append_slash (h : Begun cs) (hne : cs ≠ []) (ds : List Char) :
    Begun (cs ++ '/' :: ds) := by
  match cs, hne with
  | [c], _ =>
    refine ⟨fun rest heq => ?_, fun rest heq => ?_, fun heq => ?_⟩
    · cases heq
      exact h.slash [] rfl
    · cases heq
      exact h.single rfl
    · cases heq
  | c :: d :: cs, _ =>
    refine ⟨fun rest heq => ?_, fun rest heq => ?_, fun heq => ?_⟩
    · cases heq
      exact h.slash (d :: cs) rfl
    · cases heq
      exact h.dot cs rfl
    · cases heq

/-- What a path begins with does not hang on what is put behind a slash. -/
theorem lead_append_slash (hne : cs ≠ []) (ds : List Char) : lead (cs ++ '/' :: ds) = lead cs := by
  fun_cases lead cs with
  | case1 => rfl
  | case2 => rfl
  | case3 => rfl
  | case4 _ hslash hsingle hdot =>
      exact lead_eq_nil (Begun.append_slash ⟨hslash, hdot, hsingle⟩ hne ds)

theorem componentsOf_of_begun (h : Begun cs) : componentsOf cs = (names cs).map .ofName := by
  rw [componentsOf, lead_eq_nil h, List.nil_append]

theorem componentsOf_append_slash (hne : cs ≠ []) (ds : List Char) :
    componentsOf (cs ++ '/' :: ds) = componentsOf cs ++ (names ds).map .ofName := by
  rw [componentsOf, lead_append_slash hne, names_append_slash, List.map_append, ← List.append_assoc,
    componentsOf]

theorem componentsOf_slash (cs : List Char) :
    componentsOf ('/' :: cs) = .root :: (names cs).map .ofName := by
  have hnames : names ('/' :: cs) = names cs := names_append_slash [] cs
  rw [componentsOf, hnames]
  rfl

/-- A slash at the end of a path is no component. -/
theorem componentsOf_concat_slash (hne : cs ≠ []) :
    componentsOf (cs ++ ['/']) = componentsOf cs :=
  (componentsOf_append_slash hne []).trans (List.append_nil _)

theorem isAbsolute_eq_false (h : Begun path.toList) : isAbsolute path = false := by
  rw [isAbsolute]
  cases hp : path.toList with
  | nil => rfl
  | cons c cs =>
      have hne : c ≠ '/' := fun hc => h.slash cs (by rw [hp, hc])
      simpa using hne

/-- Putting a path behind another one puts its components behind those of the other. -/
theorem components_join (h : Begun rest.toList) :
    components (join base rest) = components base ++ (names rest.toList).map .ofName := by
  rw [join, isAbsolute_eq_false h, if_neg Bool.false_ne_true]
  cases hlast : base.toList.getLast? with
  | none =>
      have hbase : base.toList = [] := List.getLast?_eq_none_iff.1 hlast
      rw [components, componentsOf_of_begun h, components, hbase]
      rfl
  | some c =>
      obtain ⟨init, hinit⟩ := List.getLast?_eq_some_iff.1 hlast
      simp only
      split
      case isTrue hc =>
        rw [components, components, String.toList_append, hinit, hc, List.append_assoc,
          List.singleton_append]
        by_cases hroot : init = []
        · rw [hroot, List.nil_append, componentsOf_slash]
          rfl
        · rw [componentsOf_append_slash hroot, componentsOf_concat_slash hroot]
      case isFalse =>
        have hne : base.toList ≠ [] := by
          rw [hinit]
          exact List.append_ne_nil_of_right_ne_nil _ (List.cons_ne_nil _ _)
        have hslash : (base ++ "/" ++ rest).toList = base.toList ++ '/' :: rest.toList := by
          simp [String.toList_append]
        rw [components, hslash, componentsOf_append_slash hne, components]

theorem isAbsolute_iff : isAbsolute path = true ↔ ∃ cs, path.toList = '/' :: cs := by
  rw [isAbsolute, beq_iff_eq, List.head?_eq_some_iff]

theorem isAbsolute_slash (rest : String) : isAbsolute ("/" ++ rest) = true :=
  isAbsolute_iff.2 ⟨rest.toList, by simp [String.toList_append]⟩

end Path

namespace HostRoot

open WafControl.Path

variable {cs : List Char}

theorem names_dropDots (cs : List Char) : names (dropDots cs) = names cs := by
  fun_induction dropDots cs with
  | case1 cs ih => rw [ih]; exact (names_append_slash [] cs).symm
  | case2 cs ih => rw [ih]; exact (names_append_slash ['.'] cs).symm
  | case3 => rfl
  | case4 cs => rfl

theorem begun_dropDots (cs : List Char) : Begun (dropDots cs) := by
  fun_induction dropDots cs with
  | case1 cs ih => exact ih
  | case2 cs ih => exact ih
  | case3 => exact ⟨by simp, by simp, by simp⟩
  | case4 cs hslash hdot hsingle =>
      exact ⟨fun rest h => hslash rest h, fun rest h => hdot rest h, fun h => hsingle h⟩

theorem dropDots_isSuffix (cs : List Char) : dropDots cs <:+ cs := by
  fun_induction dropDots cs with
  | case1 cs ih => exact ih.trans (List.suffix_cons _ _)
  | case2 cs ih => exact ih.trans ((List.suffix_cons _ _).trans (List.suffix_cons _ _))
  | case3 => exact List.nil_suffix
  | case4 cs => exact List.suffix_rfl

/-- A path without the slashes and single dots at its ends. -/
def trimmed (cs : List Char) : List Char := (dropDots (dropDots cs).reverse).reverse

theorem names_trimmed (cs : List Char) : names (trimmed cs) = names cs := by
  rw [trimmed, names_reverse, names_dropDots, ← names_reverse, List.reverse_reverse, names_dropDots]

theorem trimmed_isPrefix (cs : List Char) : trimmed cs <+: dropDots cs := by
  have h := (dropDots_isSuffix (dropDots cs).reverse).reverse
  rwa [List.reverse_reverse] at h

theorem begun_trimmed (cs : List Char) : Begun (trimmed cs) := by
  obtain ⟨rest, hrest⟩ := trimmed_isPrefix cs
  have hfront := begun_dropDots cs
  refine ⟨fun r h => ?_, fun r h => ?_, fun h => ?_⟩
  · rw [h] at hrest
    exact hfront.slash (r ++ rest) hrest.symm
  · rw [h] at hrest
    exact hfront.dot (r ++ rest) hrest.symm
  · have hback := (begun_dropDots (dropDots cs).reverse).single
    exact hback (List.reverse_eq_iff.1 h)

variable {path : String}

/-- An absolute path below a root consists of the root's components and then its own. -/
theorem components_below (root : String) (h : isAbsolute path) :
    ∃ own, components path = .root :: own ∧
      components (below root path) = components root ++ own := by
  obtain ⟨cs, hcs⟩ := isAbsolute_iff.1 h
  refine ⟨(names cs).map .ofName, by rw [components, hcs, componentsOf_slash], ?_⟩
  have hbelow : below root path = join root (String.ofList (trimmed cs)) := by
    simp only [below, hcs, trimmed]
  have hbegun : Begun (String.ofList (trimmed cs)).toList := by
    rw [String.toList_ofList]
    exact begun_trimmed cs
  rw [hbelow, components_join hbegun, String.toList_ofList, names_trimmed]

end HostRoot

end WafControl
