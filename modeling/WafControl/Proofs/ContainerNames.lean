import WafControl.Workload.Container

/-!
# Which texts name containers

A text names a container exactly if it is the written form of one with an id (`parse_eq_ok_iff`), so
reading and writing undo each other. The id may hold further separators, because only the first one
of the text counts: `SplitAt` says what stands around it. Of a text that names no container, the
error says whether there is nothing to split or no such runtime (`parse_exact`).
-/

namespace WafControl

namespace ContainerRef

/-- The first `://` of a text stands between `before` and `after`. -/
structure SplitAt (text before after : String) : Prop where
  split : text = before ++ "://" ++ after
  first : ∀ b a, text = b ++ "://" ++ a → before.length ≤ b.length

/-- The characters between the name of a runtime and an id. -/
def separator : List Char := "://".toList

variable {c : Char} {cs b a rest : List Char}

/-- A separator stands at the front, or further on. -/
theorem cons_eq_append_separator :
    c :: rest = b ++ separator ++ a ↔
      (b = [] ∧ c :: rest = separator ++ a) ∨ ∃ b', b = c :: b' ∧ rest = b' ++ separator ++ a := by
  rw [List.append_assoc, List.cons_eq_append_iff]
  simp only [List.append_assoc, eq_comm (a := separator ++ a)]

/-- What reading splits off stands around the first separator. -/
theorem splitScheme_eq_some_iff :
    splitScheme cs = some (b, a) ↔
      cs = b ++ separator ++ a ∧ ∀ b' a', cs = b' ++ separator ++ a' → b.length ≤ b'.length := by
  fun_induction splitScheme cs generalizing b with
  | case1 rest =>
      refine ⟨fun h => ?_, fun ⟨hsplit, hfirst⟩ => ?_⟩
      · cases h
        exact ⟨rfl, fun b' a' _ => Nat.zero_le _⟩
      · have hnil : b = [] := List.eq_nil_of_length_eq_zero (Nat.le_zero.1 (hfirst [] rest rfl))
        subst hnil
        cases hsplit
        rfl
  | case2 => simp [separator]
  | case3 c rest hc ih =>
      -- no separator stands at the front, so every split begins with the first character
      have hlater (b' a' : List Char) : c :: rest = b' ++ separator ++ a' ↔
          ∃ b'', b' = c :: b'' ∧ rest = b'' ++ separator ++ a' := by
        rw [cons_eq_append_separator, or_iff_right]
        rintro ⟨-, hfront⟩
        cases hfront
        exact hc a' rfl rfl
      rw [Option.map_eq_some_iff]
      constructor
      · rintro ⟨⟨b₀, a₀⟩, hsplit, heq⟩
        cases heq
        obtain ⟨hrest, hfirst⟩ := ih.1 hsplit
        refine ⟨(hlater _ _).2 ⟨b₀, rfl, hrest⟩, fun b' a' h => ?_⟩
        obtain ⟨b'', rfl, hb''⟩ := (hlater _ _).1 h
        exact Nat.succ_le_succ (hfirst b'' a' hb'')
      · rintro ⟨hsplit, hfirst⟩
        obtain ⟨b₀, rfl, hrest⟩ := (hlater _ _).1 hsplit
        refine ⟨(b₀, a), ih.2 ⟨hrest, fun b' a' h => ?_⟩, rfl⟩
        exact Nat.le_of_succ_le_succ (hfirst (c :: b') a' ((hlater _ _).2 ⟨b', rfl, h⟩))

/-- Nothing is split off only where there is no separator. -/
theorem splitScheme_eq_none_iff :
    splitScheme cs = none ↔ ∀ b a, cs ≠ b ++ separator ++ a := by
  fun_induction splitScheme cs with
  | case1 rest => simpa using ⟨[], rest, rfl⟩
  | case2 => simp [separator]
  | case3 c rest hc ih =>
      rw [Option.map_eq_none_iff, ih]
      refine ⟨fun h b a hsplit => ?_, fun h b a hsplit => ?_⟩
      · rcases cons_eq_append_separator.1 hsplit with ⟨-, hfront⟩ | ⟨b', -, hrest⟩
        · cases hfront
          exact hc a rfl rfl
        · exact h b' a hrest
      · exact h (c :: b) a (cons_eq_append_separator.2 (.inr ⟨b, rfl, hsplit⟩))

variable {s before after : String}

theorem eq_append_iff_toList :
    s = before ++ "://" ++ after ↔ s.toList = before.toList ++ separator ++ after.toList := by
  rw [← String.toList_inj, String.toList_append, String.toList_append, separator]

theorem splitAt_iff :
    SplitAt s before after ↔ splitScheme s.toList = some (before.toList, after.toList) := by
  rw [splitScheme_eq_some_iff]
  constructor
  · rintro ⟨hsplit, hfirst⟩
    refine ⟨eq_append_iff_toList.1 hsplit, fun b a h => ?_⟩
    have hle := hfirst (String.ofList b) (String.ofList a)
      (eq_append_iff_toList.2 (by simpa using h))
    rwa [String.length_ofList, ← String.length_toList] at hle
  · rintro ⟨hsplit, hfirst⟩
    refine ⟨eq_append_iff_toList.2 hsplit, fun b a h => ?_⟩
    have hle := hfirst b.toList a.toList (eq_append_iff_toList.1 h)
    rwa [String.length_toList, String.length_toList] at hle

/-- Every text with a separator has a first one. -/
theorem exists_splitAt (h : s = before ++ "://" ++ after) : ∃ b a, SplitAt s b a := by
  cases hsplit : splitScheme s.toList with
  | none => exact absurd (eq_append_iff_toList.1 h) (splitScheme_eq_none_iff.1 hsplit _ _)
  | some p =>
      refine ⟨String.ofList p.1, String.ofList p.2, splitAt_iff.2 ?_⟩
      simpa using hsplit

theorem ofName?_eq_some_iff {runtime : ContainerRuntime} :
    ContainerRuntime.ofName? s.toList = some runtime ↔ s = runtime.name := by
  simp only [ContainerRuntime.ofName?, String.toList_inj]
  cases runtime with
  | containerd => simp
  | crio =>
      by_cases h : s = ContainerRuntime.containerd.name
      · simp [h, ContainerRuntime.name]
      · simp [h]

theorem parse_of_splitAt (h : SplitAt s before after) (hafter : after ≠ "") :
    parse s = match ContainerRuntime.ofName? before.toList with
      | some runtime => .ok ⟨runtime, after⟩
      | none => .error (.unsupportedRuntime before) := by
  have hne : after.toList ≠ [] := fun h' => hafter (String.toList_inj.1 (by simpa using h'))
  obtain ⟨x, xs, hx⟩ := List.exists_cons_of_ne_nil hne
  have hid : String.ofList (x :: xs) = after := by rw [← hx, String.ofList_toList]
  cases hname : ContainerRuntime.ofName? before.toList with
  | none => simp only [parse, splitAt_iff.1 h, hx, hname, String.ofList_toList]
  | some runtime => simp only [parse, splitAt_iff.1 h, hx, hname, hid]

theorem parse_of_nothing_after (h : SplitAt s before "") :
    parse s = .error (.missingPrefix s) := by
  simp only [parse, splitAt_iff.1 h, String.toList_empty]

theorem parse_of_no_separator (h : ∀ before after, s ≠ before ++ "://" ++ after) :
    parse s = .error (.missingPrefix s) := by
  have hnone : splitScheme s.toList = none := splitScheme_eq_none_iff.2 fun b a hsplit =>
    h (String.ofList b) (String.ofList a) (eq_append_iff_toList.2 (by simpa using hsplit))
  simp only [parse, hnone]

/-- What a text can be: there is nothing to split or nothing behind, or else a name and an id. -/
theorem unsplit_or_splitAt (s : String) :
    ((∀ before after, s ≠ before ++ "://" ++ after) ∨ ∃ before, SplitAt s before "") ∨
      ∃ before after, SplitAt s before after ∧ after ≠ "" := by
  by_cases h : ∃ before after, s = before ++ "://" ++ after
  · obtain ⟨before, after, hsplit⟩ := h
    obtain ⟨b, a, hfirst⟩ := exists_splitAt hsplit
    by_cases ha : a = ""
    · exact .inl (.inr ⟨b, ha ▸ hfirst⟩)
    · exact .inr ⟨b, a, hfirst, ha⟩
  · exact .inl (.inl fun before after hsplit => h ⟨before, after, hsplit⟩)

theorem parse_of_unsplit
    (h : (∀ before after, s ≠ before ++ "://" ++ after) ∨ ∃ before, SplitAt s before "") :
    parse s = .error (.missingPrefix s) := by
  rcases h with h | ⟨before, h⟩
  · exact parse_of_no_separator h
  · exact parse_of_nothing_after h

/-- A text names a container exactly if it is its written form. -/
theorem parse_eq_ok_iff {ref : ContainerRef} :
    parse s = .ok ref ↔ ref.id ≠ "" ∧ ref.display = s := by
  refine ⟨fun h => ?_, fun ⟨hid, hs⟩ => hs ▸ parse_display ref hid⟩
  rcases unsplit_or_splitAt s with hunsplit | ⟨before, after, hsplit, hafter⟩
  · rw [parse_of_unsplit hunsplit] at h
    cases h
  · rw [parse_of_splitAt hsplit hafter] at h
    split at h
    case h_1 runtime hname =>
      cases h
      rw [display, ← ofName?_eq_some_iff.1 hname]
      exact ⟨hafter, hsplit.split.symm⟩
    case h_2 => cases h

theorem parse_eq_error_iff {e : ContainerRefError} :
    parse s = .error e ↔
      (((∀ before after, s ≠ before ++ "://" ++ after) ∨ ∃ before, SplitAt s before "") ∧
        e = .missingPrefix s) ∨
      ∃ before after, SplitAt s before after ∧ after ≠ "" ∧
        (∀ runtime : ContainerRuntime, before ≠ runtime.name) ∧ e = .unsupportedRuntime before := by
  constructor
  · intro h
    rcases unsplit_or_splitAt s with hunsplit | ⟨before, after, hsplit, hafter⟩
    · rw [parse_of_unsplit hunsplit] at h
      cases h
      exact .inl ⟨hunsplit, rfl⟩
    · rw [parse_of_splitAt hsplit hafter] at h
      split at h
      case h_1 => cases h
      case h_2 hname =>
        cases h
        refine .inr ⟨before, after, hsplit, hafter, fun runtime heq => ?_, rfl⟩
        rw [ofName?_eq_some_iff.2 heq] at hname
        cases hname
  · rintro (⟨hunsplit, rfl⟩ | ⟨before, after, hsplit, hafter, hname, rfl⟩)
    · exact parse_of_unsplit hunsplit
    · have hnone : ContainerRuntime.ofName? before.toList = none :=
        Option.eq_none_iff_forall_ne_some.2 fun runtime h => hname runtime (ofName?_eq_some_iff.1 h)
      rw [parse_of_splitAt hsplit hafter, hnone]

theorem display_containerd (id : String) : display ⟨.containerd, id⟩ = "containerd://" ++ id := rfl

theorem display_crio (id : String) : display ⟨.crio, id⟩ = "cri-o://" ++ id := rfl

/-- A text is read exactly if it is the name of a runtime, the separator and an id; then writing
what was read gives the text back, and what is written is read back. Of any other text, the error
says whether there is nothing to split or nothing behind the first separator, or which name before
it is that of no runtime. -/
theorem parse_exact (s : String) :
    ((∃ ref, parse s = .ok ref) ↔
        ∃ rest, rest ≠ "" ∧ (s = "containerd://" ++ rest ∨ s = "cri-o://" ++ rest)) ∧
      (∀ ref, parse s = .ok ref ↔ ref.id ≠ "" ∧ ref.display = s) ∧
      ∀ e, parse s = .error e ↔
        (((∀ before after, s ≠ before ++ "://" ++ after) ∨ ∃ before, SplitAt s before "") ∧
          e = .missingPrefix s) ∨
        ∃ before after, SplitAt s before after ∧ after ≠ "" ∧ before ≠ "containerd" ∧
          before ≠ "cri-o" ∧ e = .unsupportedRuntime before := by
  refine ⟨⟨?_, ?_⟩, fun ref => parse_eq_ok_iff, fun e => ?_⟩
  · rintro ⟨⟨runtime, id⟩, h⟩
    obtain ⟨hid, hs⟩ := parse_eq_ok_iff.1 h
    refine ⟨id, hid, ?_⟩
    cases runtime with
    | containerd => exact .inl hs.symm
    | crio => exact .inr hs.symm
  · rintro ⟨rest, hrest, rfl | rfl⟩
    · exact ⟨⟨.containerd, rest⟩, parse_eq_ok_iff.2 ⟨hrest, display_containerd rest⟩⟩
    · exact ⟨⟨.crio, rest⟩, parse_eq_ok_iff.2 ⟨hrest, display_crio rest⟩⟩
  · have hnames (before : String) : (∀ runtime : ContainerRuntime, before ≠ runtime.name) ↔
        before ≠ "containerd" ∧ before ≠ "cri-o" :=
      ⟨fun h => ⟨h .containerd, h .crio⟩, fun ⟨hc, ho⟩ runtime => by
        cases runtime with
        | containerd => exact hc
        | crio => exact ho⟩
    simp only [parse_eq_error_iff, hnames, and_assoc]

/-- The first separator counts, so that an id may hold another one. -/
example : parse "containerd://a://b" = .ok ⟨.containerd, "a://b"⟩ := by rfl

end ContainerRef

end WafControl
