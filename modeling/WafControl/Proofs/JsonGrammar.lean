import Mathlib.Data.List.TakeWhile
import WafControl.Json.Reader

/-!
# The grammar of documents

What a document is, said without a reader. Each judgment is about the text in front of what is left:
`Value cs j rest` says that `cs` is a value written out, and then `rest`. A text is read exactly if
it is a document (`parse_eq_some_iff`), however deep it is nested, and so it is a document in one
way only.
-/

namespace WafControl

namespace Json

namespace Grammar

inductive Blanks : List Char → List Char → Prop
  | done (cs : List Char) : Blanks cs cs
  | blank {c : Char} {cs rest : List Char} (blank : isBlank c) (more : Blanks cs rest) :
      Blanks (c :: cs) rest

/-- What is left of a string up to its closing quote. -/
inductive Units : List Char → List Unit → List Char → Prop
  | close (rest : List Char) : Units ('"' :: rest) [] rest
  | plain {c : Char} {cs rest : List Char} {us : List Unit} (quote : c ≠ '"') (backslash : c ≠ '\\')
      (control : 32 ≤ c.toNat) (more : Units cs us rest) : Units (c :: cs) (.char c :: us) rest
  | letter {e c : Char} {cs rest : List Char} {us : List Unit} (escaped : escaped? e = some c)
      (more : Units cs us rest) : Units ('\\' :: e :: cs) (.char c :: us) rest
  | code {a b c d : Char} {n : Nat} {cs rest : List Char} {us : List Unit}
      (hex : hexUnit? a b c d = some n) (more : Units cs us rest) :
      Units ('\\' :: 'u' :: a :: b :: c :: d :: cs) (.escaped n :: us) rest

/-- Digits, and at least one of them. -/
structure Digits (cs ds rest : List Char) : Prop where
  split : cs = ds ++ rest
  nonempty : ds ≠ []
  digits : ∀ c ∈ ds, c.isDigit

/-- Digits of which the first is not zero, if there are others. -/
structure Integer (cs ds rest : List Char) : Prop where
  digits : Digits cs ds rest
  zero : ∀ d more, ds ≠ '0' :: d :: more

inductive Fraction : List Char → List Char → List Char → Prop
  | missing (cs : List Char) : Fraction cs [] cs
  | point {cs ds rest : List Char} (digits : Digits cs ds rest) : Fraction ('.' :: cs) ds rest

inductive Exponent : List Char → Bool → List Char → List Char → Prop
  | missing (cs : List Char) : Exponent cs false [] cs
  | unsigned {e : Char} {cs ds rest : List Char} (letter : e = 'e' ∨ e = 'E')
      (digits : Digits cs ds rest) : Exponent (e :: cs) false ds rest
  | signed {e sign : Char} {negative : Bool} {cs ds rest : List Char} (letter : e = 'e' ∨ e = 'E')
      (mark : sign = if negative then '-' else '+') (digits : Digits cs ds rest) :
      Exponent (e :: sign :: cs) negative ds rest

/-- A number without its sign. -/
inductive Unsigned : List Char → JsonNumber → List Char → Prop
  | parts {cs cs₁ cs₂ rest : List Char} {n : JsonNumber} (integer : Integer cs n.integer cs₁)
      (fraction : Fraction cs₁ n.fraction cs₂)
      (exponent : Exponent cs₂ n.exponentNegative n.exponent rest) : Unsigned cs n rest

inductive Number : List Char → JsonNumber → List Char → Prop
  | plain {cs rest : List Char} {n : JsonNumber} (sign : n.negative = false)
      (unsigned : Unsigned cs n rest) : Number cs n rest
  | negative {cs rest : List Char} {n : JsonNumber} (sign : n.negative = true)
      (unsigned : Unsigned cs n rest) : Number ('-' :: cs) n rest

/-- A string behind its opening quote. There is no text for it where a surrogate has no partner. -/
inductive Quoted : List Char → Option String → List Char → Prop
  | units {cs rest : List Char} {us : List Unit} (units : Units cs us rest) :
      Quoted cs ((characters? us).map String.ofList) rest

mutual

inductive Value : List Char → Json → List Char → Prop
  | nullWord (rest : List Char) : Value ('n' :: 'u' :: 'l' :: 'l' :: rest) .null rest
  | trueWord (rest : List Char) : Value ('t' :: 'r' :: 'u' :: 'e' :: rest) (.bool true) rest
  | falseWord (rest : List Char) :
      Value ('f' :: 'a' :: 'l' :: 's' :: 'e' :: rest) (.bool false) rest
  | number {cs rest : List Char} {n : JsonNumber} (number : Number cs n rest) :
      Value cs (.number n) rest
  | string {cs rest : List Char} {s : Option String} (quoted : Quoted cs s rest) :
      Value ('"' :: cs) (.string s) rest
  | emptyArray {cs rest : List Char} (close : Blanks cs (']' :: rest)) :
      Value ('[' :: cs) (.array []) rest
  | array {cs start rest : List Char} {xs : List Json} (blanks : Blanks cs start)
      (elements : Elements start xs rest) : Value ('[' :: cs) (.array xs) rest
  | emptyObject {cs rest : List Char} (close : Blanks cs ('}' :: rest)) :
      Value ('{' :: cs) (.object []) rest
  | object {cs start rest : List Char} {ms : List (Option String × Json)}
      (blanks : Blanks cs start) (members : Members start ms rest) :
      Value ('{' :: cs) (.object ms) rest

/-- The elements of an array up to its end. -/
inductive Elements : List Char → List Json → List Char → Prop
  | last {cs next rest : List Char} {x : Json} (value : Value cs x next)
      (close : Blanks next (']' :: rest)) : Elements cs [x] rest
  | more {cs next after start rest : List Char} {x : Json} {xs : List Json}
      (value : Value cs x next) (comma : Blanks next (',' :: after)) (blanks : Blanks after start)
      (elements : Elements start xs rest) : Elements cs (x :: xs) rest

/-- The members of an object up to its end. -/
inductive Members : List Char → List (Option String × Json) → List Char → Prop
  | last {cs next rest : List Char} {m : Option String × Json} (member : Member cs m next)
      (close : Blanks next ('}' :: rest)) : Members cs [m] rest
  | more {cs next after start rest : List Char} {m : Option String × Json}
      {ms : List (Option String × Json)} (member : Member cs m next)
      (comma : Blanks next (',' :: after)) (blanks : Blanks after start)
      (members : Members start ms rest) : Members cs (m :: ms) rest

inductive Member : List Char → Option String × Json → List Char → Prop
  | pair {cs next after start rest : List Char} {key : Option String} {x : Json}
      (quoted : Quoted cs key next) (colon : Blanks next (':' :: after))
      (blanks : Blanks after start) (value : Value start x rest) :
      Member ('"' :: cs) (key, x) rest

end

end Grammar

/-- A text is a document: a value with blanks around it and nothing else. -/
def Document (text : String) (j : Json) : Prop :=
  ∃ start rest, Grammar.Blanks text.toList start ∧ Grammar.Value start j rest ∧
    Grammar.Blanks rest []

namespace Grammar

variable {cs ds rest : List Char}

/-! ### Blanks -/

theorem blanks_skipBlanks (cs : List Char) : Blanks cs (skipBlanks cs) := by
  induction cs with
  | nil => exact .done []
  | cons c cs ih =>
      rw [skipBlanks, List.dropWhile_cons]
      split
      case isTrue hc => exact .blank hc ih
      case isFalse => exact .done _

theorem Blanks.skipBlanks_eq {c : Char} (h : Blanks cs (c :: rest)) (hc : isBlank c = false) :
    skipBlanks cs = c :: rest := by
  generalize hstart : c :: rest = start at h
  induction h with
  | done cs =>
      subst hstart
      exact List.dropWhile_cons_of_neg (by simp [hc])
  | blank hblank more ih =>
      rw [skipBlanks, List.dropWhile_cons_of_pos hblank]
      exact ih hstart

theorem blanks_nil_iff : Blanks cs [] ↔ skipBlanks cs = [] := by
  constructor
  · intro h
    generalize hend : [] = rest at h
    induction h with
    | done cs => rw [← hend]; rfl
    | blank hblank more ih =>
        rw [skipBlanks, List.dropWhile_cons_of_pos hblank]
        exact ih hend
  · intro h
    rw [← h]
    exact blanks_skipBlanks cs

theorem Blanks.length_le (h : Blanks cs rest) : rest.length ≤ cs.length := by
  induction h with
  | done => exact Nat.le_refl _
  | blank hblank more ih => exact Nat.le_succ_of_le ih

/-! ### Strings -/

theorem units_of_units? {us : List Unit} (h : units? cs = some (us, rest)) : Units cs us rest := by
  fun_induction units? cs generalizing us with
  | case1 cs => cases h; exact .close _
  | case2 a b c d cs ih =>
      simp only [Option.bind_eq_bind, Option.bind_eq_some_iff] at h
      obtain ⟨n, hex, ⟨vs, left⟩, hread, heq⟩ := h
      cases heq
      exact .code hex (ih hread)
  | case3 e cs hcode ih =>
      simp only [Option.bind_eq_bind, Option.bind_eq_some_iff] at h
      obtain ⟨c, hescaped, ⟨vs, left⟩, hread, heq⟩ := h
      cases heq
      exact .letter hescaped (ih hread)
  | case4 => cases h
  | case5 c cs hquote hcode hletter hcontrol ih =>
      simp only [Option.bind_eq_bind, Option.bind_eq_some_iff] at h
      obtain ⟨⟨vs, left⟩, hread, heq⟩ := h
      cases heq
      have hmore := ih hread
      refine .plain hquote (fun hc => ?_) (Nat.le_of_not_lt hcontrol) hmore
      -- a backslash with nothing behind it leaves no quote to close the string
      cases cs with
      | nil => cases hmore
      | cons e cs => exact hletter e cs hc rfl
  | case6 => cases h

theorem Units.units?_eq {us : List Unit} (h : Units cs us rest) : units? cs = some (us, rest) := by
  induction h with
  | close rest => rfl
  | @plain c cs rest us hquote hbackslash hcontrol more ih =>
      rw [units?, if_neg (Nat.not_lt.2 hcontrol), ih]
      · rfl
      · exact hquote
      · exact fun _ _ _ _ _ hc => absurd hc hbackslash
      · exact fun _ _ hc => absurd hc hbackslash
  | @letter e c cs rest us hescaped more ih =>
      rw [units?, hescaped, ih]
      · rfl
      · rintro a b c d cs rfl -
        cases hescaped
  | code hex more ih =>
      rw [units?, hex, ih]
      rfl

theorem readString?_eq_some_iff {s : Option String} :
    readString? cs = some (s, rest) ↔ Quoted cs s rest := by
  rw [readString?, Option.map_eq_some_iff]
  constructor
  · rintro ⟨⟨us, left⟩, hunits, heq⟩
    cases heq
    exact .units (units_of_units? hunits)
  · rintro ⟨units⟩
    exact ⟨_, units.units?_eq, rfl⟩

/-! ### Numbers -/

/-- No digit comes first. -/
def NoDigit (cs : List Char) : Prop := ∀ c more, cs = c :: more → c.isDigit = false

theorem digits_of_digits? (h : digits? cs = some (ds, rest)) : Digits cs ds rest := by
  rw [digits?] at h
  split at h
  · cases h
  · rename_i hne
    cases h
    exact ⟨List.takeWhile_append_dropWhile.symm, hne, fun c hc => List.mem_takeWhile_imp hc⟩

theorem Digits.digits?_eq (h : Digits cs ds rest) (hrest : NoDigit rest) :
    digits? cs = some (ds, rest) := by
  obtain ⟨rfl, hne, hdigits⟩ := h
  have htake : rest.takeWhile Char.isDigit = [] ∧ rest.dropWhile Char.isDigit = rest := by
    cases rest with
    | nil => exact ⟨rfl, rfl⟩
    | cons c more =>
        have hc : ¬c.isDigit := by simp [hrest c more rfl]
        exact ⟨List.takeWhile_cons_of_neg hc, List.dropWhile_cons_of_neg hc⟩
  rw [digits?, List.takeWhile_append_of_pos hdigits, List.dropWhile_append_of_pos hdigits, htake.1,
    htake.2, List.append_nil]
  cases ds with
  | nil => exact absurd rfl hne
  | cons d ds => rfl

theorem integer_of_integer? (h : integer? cs = some (ds, rest)) : Integer cs ds rest := by
  rw [integer?] at h
  split at h
  · cases h
  · rename_i hzero
    refine ⟨digits_of_digits? h, fun d more hds => ?_⟩
    rw [hds] at h
    exact hzero d more rest h

theorem Integer.integer?_eq (h : Integer cs ds rest) (hrest : NoDigit rest) :
    integer? cs = some (ds, rest) := by
  rw [integer?, h.digits.digits?_eq hrest]
  split
  · rename_i heq
    cases heq
    exact absurd rfl (h.zero _ _)
  · rfl

theorem fraction_of_fraction? (h : fraction? cs = some (ds, rest)) : Fraction cs ds rest := by
  unfold fraction? at h
  split at h
  · exact .point (digits_of_digits? h)
  · cases h
    exact .missing _

theorem exponent_of_exponent? {negative : Bool} (h : exponent? cs = some (negative, ds, rest)) :
    Exponent cs negative ds rest := by
  unfold exponent? at h
  split at h
  · rename_i e cs
    split at h
    · rename_i he
      have hletter : e = 'e' ∨ e = 'E' := by simpa using he
      split at h
      · obtain ⟨⟨ds, left⟩, hdigits, heq⟩ := Option.map_eq_some_iff.1 h
        cases heq
        exact .signed hletter rfl (digits_of_digits? hdigits)
      · obtain ⟨⟨ds, left⟩, hdigits, heq⟩ := Option.map_eq_some_iff.1 h
        cases heq
        exact .signed hletter rfl (digits_of_digits? hdigits)
      · obtain ⟨⟨ds, left⟩, hdigits, heq⟩ := Option.map_eq_some_iff.1 h
        cases heq
        exact .unsigned hletter (digits_of_digits? hdigits)
    · cases h
      exact .missing _
  · cases h
    exact .missing _

theorem number_of_readNumber? {n : JsonNumber} (h : readNumber? cs = some (n, rest)) :
    Number cs n rest := by
  have hunsigned : ∀ negative start, unsigned? negative start = some (n, rest) →
      n.negative = negative ∧ Unsigned start n rest := by
    intro negative start hread
    simp only [unsigned?, Option.bind_eq_bind, Option.bind_eq_some_iff] at hread
    obtain ⟨⟨integer, cs₁⟩, hinteger, ⟨fraction, cs₂⟩, hfraction, ⟨sign, exponent, left⟩,
      hexponent, heq⟩ := hread
    cases heq
    exact ⟨rfl, .parts (integer_of_integer? hinteger) (fraction_of_fraction? hfraction)
      (exponent_of_exponent? hexponent)⟩
  unfold readNumber? at h
  split at h
  · obtain ⟨hsign, hnumber⟩ := hunsigned true _ h
    exact .negative hsign hnumber
  · obtain ⟨hsign, hnumber⟩ := hunsigned false _ h
    exact .plain hsign hnumber

/-- What may stand behind a value: the end, a blank, or what ends a list or parts its values. -/
def Ends (cs : List Char) : Prop :=
  ∀ c more, cs = c :: more → (isBlank c || c == ',' || c == ']' || c == '}') = true

/-- What ends a value is no part of a number. -/
theorem Ends.not_number (h : Ends rest) {c : Char} {more : List Char} (hc : rest = c :: more) :
    c.isDigit = false ∧ c ≠ '.' ∧ c ≠ 'e' ∧ c ≠ 'E' := by
  have hends := h c more hc
  simp only [isBlank, Bool.or_eq_true, beq_iff_eq, or_assoc] at hends
  rcases hends with rfl | rfl | rfl | rfl | rfl | rfl | rfl <;> decide

theorem Ends.noDigit (h : Ends rest) : NoDigit rest := fun _ _ hc => (h.not_number hc).1

/-- Digits do not start with a sign. -/
theorem Digits.ne_sign {c : Char} {more : List Char} (h : Digits (c :: more) ds rest) :
    c ≠ '-' ∧ c ≠ '+' := by
  obtain ⟨hsplit, hne, hdigits⟩ := h
  obtain ⟨d, ds, rfl⟩ := List.exists_cons_of_ne_nil hne
  cases hsplit
  have hc := hdigits c List.mem_cons_self
  constructor
  · rintro rfl
    exact absurd hc (by decide)
  · rintro rfl
    exact absurd hc (by decide)

theorem Exponent.exponent?_eq {negative : Bool} (h : Exponent cs negative ds rest)
    (hrest : Ends rest) : exponent? cs = some (negative, ds, rest) := by
  unfold exponent?
  cases h with
  | missing =>
      cases cs with
      | nil => rfl
      | cons c more =>
          obtain ⟨-, -, he, hE⟩ := hrest.not_number rfl
          exact if_neg (by simp [he, hE])
  | @unsigned e cs _ _ hletter hdigits =>
      refine (if_pos (by simpa using hletter)).trans ?_
      split
      · exact absurd rfl hdigits.ne_sign.1
      · exact absurd rfl hdigits.ne_sign.2
      · rw [hdigits.digits?_eq hrest.noDigit]
        rfl
  | @signed e sign negative cs _ _ hletter hmark hdigits =>
      refine (if_pos (by simpa using hletter)).trans ?_
      cases negative with
      | false =>
          subst hmark
          simp only [Bool.false_eq_true, if_false, hdigits.digits?_eq hrest.noDigit,
            Option.map_some]
      | true =>
          subst hmark
          simp only [if_true, hdigits.digits?_eq hrest.noDigit, Option.map_some]

theorem Exponent.noDigit {negative : Bool} (h : Exponent cs negative ds rest) (hrest : Ends rest) :
    NoDigit cs := by
  cases h with
  | missing => exact hrest.noDigit
  | unsigned hletter digits =>
      rintro c more heq
      cases heq
      rcases hletter with rfl | rfl <;> rfl
  | signed hletter mark digits =>
      rintro c more heq
      cases heq
      rcases hletter with rfl | rfl <;> rfl

theorem Exponent.ne_point {negative : Bool} (h : Exponent cs negative ds rest) (hrest : Ends rest)
    (more : List Char) : cs ≠ '.' :: more := by
  rintro rfl
  cases h with
  | missing => exact (hrest.not_number rfl).2.1 rfl
  | unsigned hletter digits => rcases hletter with h | h <;> cases h
  | signed hletter mark digits => rcases hletter with h | h <;> cases h

theorem Fraction.fraction?_eq (h : Fraction cs ds rest) (hpoint : ∀ more, rest ≠ '.' :: more)
    (hdigit : NoDigit rest) : fraction? cs = some (ds, rest) := by
  unfold fraction?
  cases h with
  | missing =>
      split
      · exact absurd rfl (hpoint _)
      · rfl
  | point digits => exact digits.digits?_eq hdigit

theorem Fraction.noDigit (h : Fraction cs ds rest) (hrest : NoDigit rest) : NoDigit cs := by
  cases h with
  | missing => exact hrest
  | point digits =>
      rintro c more heq
      cases heq
      rfl

theorem Unsigned.unsigned?_eq {n : JsonNumber} (h : Unsigned cs n rest) (hrest : Ends rest) :
    unsigned? n.negative cs = some (n, rest) := by
  obtain ⟨hinteger, hfraction, hexponent⟩ := h
  have hnone := hexponent.noDigit hrest
  simp only [unsigned?, Option.bind_eq_bind, Option.bind_some,
    hinteger.integer?_eq (hfraction.noDigit hnone),
    hfraction.fraction?_eq (hexponent.ne_point hrest) hnone, hexponent.exponent?_eq hrest]
  rfl

theorem Unsigned.ne_minus {n : JsonNumber} (h : Unsigned cs n rest) (more : List Char) :
    cs ≠ '-' :: more := by
  obtain ⟨hinteger, -, -⟩ := h
  rintro rfl
  exact hinteger.digits.ne_sign.1 rfl

theorem Number.starts {n : JsonNumber} (h : Number cs n rest) :
    ∃ c more, cs = c :: more ∧ (c = '-' ∨ c.isDigit) := by
  cases h with
  | plain sign unsigned =>
      obtain ⟨⟨⟨rfl, hne, hdigits⟩, -⟩, -, -⟩ := unsigned
      obtain ⟨d, ds, hds⟩ := List.exists_cons_of_ne_nil hne
      rw [hds] at hdigits ⊢
      exact ⟨d, _, rfl, .inr (hdigits d List.mem_cons_self)⟩
  | negative sign unsigned => exact ⟨_, _, rfl, .inl rfl⟩

theorem Number.readNumber?_eq {n : JsonNumber} (h : Number cs n rest) (hrest : Ends rest) :
    readNumber? cs = some (n, rest) := by
  unfold readNumber?
  cases h with
  | plain sign unsigned =>
      split
      · exact absurd rfl (unsigned.ne_minus _)
      · rw [← sign]
        exact unsigned.unsigned?_eq hrest
  | negative sign unsigned =>
      rw [← sign]
      exact unsigned.unsigned?_eq hrest

/-! ### Values -/

theorem skipBlanks_skipBlanks (cs : List Char) : skipBlanks (skipBlanks cs) = skipBlanks cs := by
  induction cs with
  | nil => rfl
  | cons c cs ih =>
      by_cases hc : isBlank c
      · have hskip : skipBlanks (c :: cs) = skipBlanks cs := List.dropWhile_cons_of_pos hc
        rw [hskip, ih]
      · have hskip : skipBlanks (c :: cs) = c :: cs := List.dropWhile_cons_of_neg hc
        rw [hskip, hskip]

/-- Whatever is read with so much fuel is written so. -/
structure Sound (fuel : Nat) : Prop where
  value : ∀ {cs rest j}, value? fuel cs = some (j, rest) → Value (skipBlanks cs) j rest
  elements : ∀ {cs rest xs}, elements? fuel cs = some (xs, rest) → Elements (skipBlanks cs) xs rest
  members : ∀ {cs rest ms}, members? fuel cs = some (ms, rest) → Members (skipBlanks cs) ms rest

variable {fuel : Nat} {start : List Char}

theorem blanks_of_skipBlanks (h : skipBlanks cs = start) : Blanks cs start :=
  h ▸ blanks_skipBlanks cs

theorem Sound.value_succ (h : Sound fuel) {j : Json}
    (hread : value? (fuel + 1) cs = some (j, rest)) : Value (skipBlanks cs) j rest := by
  unfold value? at hread
  split at hread
  case h_1 cs hcs =>
    rw [hcs]
    split at hread
    · rename_i hclose
      cases hread
      exact .emptyObject (blanks_of_skipBlanks hclose)
    · obtain ⟨⟨ms, left⟩, hmembers, heq⟩ := Option.map_eq_some_iff.1 hread
      cases heq
      have hwritten := h.members hmembers
      rw [skipBlanks_skipBlanks] at hwritten
      exact .object (blanks_skipBlanks cs) hwritten
  case h_2 cs hcs =>
    rw [hcs]
    split at hread
    · rename_i hclose
      cases hread
      exact .emptyArray (blanks_of_skipBlanks hclose)
    · obtain ⟨⟨xs, left⟩, helements, heq⟩ := Option.map_eq_some_iff.1 hread
      cases heq
      have hwritten := h.elements helements
      rw [skipBlanks_skipBlanks] at hwritten
      exact .array (blanks_skipBlanks cs) hwritten
  case h_3 cs hcs =>
    rw [hcs]
    obtain ⟨⟨s, left⟩, hquoted, heq⟩ := Option.map_eq_some_iff.1 hread
    cases heq
    exact .string (readString?_eq_some_iff.1 hquoted)
  case h_4 cs hcs => cases hread; rw [hcs]; exact .nullWord _
  case h_5 cs hcs => cases hread; rw [hcs]; exact .trueWord _
  case h_6 cs hcs => cases hread; rw [hcs]; exact .falseWord _
  case h_7 =>
    obtain ⟨⟨n, left⟩, hnumber, heq⟩ := Option.map_eq_some_iff.1 hread
    cases heq
    exact .number (number_of_readNumber? hnumber)

theorem Sound.elements_succ (h : Sound fuel) {xs : List Json}
    (hread : elements? (fuel + 1) cs = some (xs, rest)) : Elements (skipBlanks cs) xs rest := by
  unfold elements? at hread
  rw [Option.bind_eq_bind, Option.bind_eq_some_iff] at hread
  obtain ⟨⟨x, next⟩, hvalue, hread⟩ := hread
  have hx := h.value hvalue
  simp only at hread
  split at hread
  · rename_i after hcomma
    rw [Option.bind_eq_bind, Option.bind_eq_some_iff] at hread
    obtain ⟨⟨ys, left⟩, helements, heq⟩ := hread
    cases heq
    exact .more hx (blanks_of_skipBlanks hcomma) (blanks_skipBlanks after) (h.elements helements)
  · rename_i hclose
    cases hread
    exact .last hx (blanks_of_skipBlanks hclose)
  · cases hread

theorem Sound.members_succ (h : Sound fuel) {ms : List (Option String × Json)}
    (hread : members? (fuel + 1) cs = some (ms, rest)) : Members (skipBlanks cs) ms rest := by
  unfold members? at hread
  split at hread
  · rename_i cs hcs
    rw [hcs]
    rw [Option.bind_eq_bind, Option.bind_eq_some_iff] at hread
    obtain ⟨⟨key, next⟩, hquoted, hread⟩ := hread
    simp only at hread
    split at hread
    · rename_i after hcolon
      rw [Option.bind_eq_bind, Option.bind_eq_some_iff] at hread
      obtain ⟨⟨x, end'⟩, hvalue, hread⟩ := hread
      have hmember : Member ('"' :: cs) (key, x) end' :=
        .pair (readString?_eq_some_iff.1 hquoted) (blanks_of_skipBlanks hcolon)
          (blanks_skipBlanks after) (h.value hvalue)
      simp only at hread
      split at hread
      · rename_i later hcomma
        rw [Option.bind_eq_bind, Option.bind_eq_some_iff] at hread
        obtain ⟨⟨others, left⟩, hmembers, heq⟩ := hread
        cases heq
        exact .more hmember (blanks_of_skipBlanks hcomma) (blanks_skipBlanks later)
          (h.members hmembers)
      · rename_i hclose
        cases hread
        exact .last hmember (blanks_of_skipBlanks hclose)
      · cases hread
    · cases hread
  · cases hread

theorem sound (fuel : Nat) : Sound fuel := by
  induction fuel with
  | zero =>
      exact ⟨fun h => (by cases h), fun h => (by cases h), fun h => (by cases h)⟩
  | succ fuel ih => exact ⟨ih.value_succ, ih.elements_succ, ih.members_succ⟩

/-! ### All values are read -/

theorem Blanks.ends {c : Char} (h : Blanks cs (c :: rest))
    (hc : (c == ',' || c == ']' || c == '}') = true) : Ends cs := by
  rintro d more rfl
  cases h with
  | done => rw [Bool.or_assoc, Bool.or_assoc, ← Bool.or_assoc (c == ',')]; simp [hc]
  | blank hblank more => simp [hblank]

theorem Blanks.ends_nil (h : Blanks cs []) : Ends cs := by
  rintro d more rfl
  cases h with
  | blank hblank more => simp [hblank]

/-- A value starts with what is no blank and closes no list. -/
structure Starts (c : Char) : Prop where
  notBlank : isBlank c = false
  notClose : c ≠ ']'

theorem starts_of_isDigit {c : Char} (h : c.isDigit) : Starts c := by
  refine ⟨Bool.eq_false_iff.2 fun hblank => ?_, ?_⟩
  · simp only [isBlank, Bool.or_eq_true, beq_iff_eq, or_assoc] at hblank
    rcases hblank with rfl | rfl | rfl | rfl <;> exact absurd h (by decide)
  · rintro rfl
    exact absurd h (by decide)

theorem Value.starts {j : Json} (h : Value cs j rest) : ∃ c more, cs = c :: more ∧ Starts c := by
  cases h with
  | nullWord => exact ⟨_, _, rfl, by decide, by decide⟩
  | trueWord => exact ⟨_, _, rfl, by decide, by decide⟩
  | falseWord => exact ⟨_, _, rfl, by decide, by decide⟩
  | number number =>
      obtain ⟨c, more, hc, rfl | hdigit⟩ := number.starts
      · exact ⟨_, more, hc, by decide, by decide⟩
      · exact ⟨c, more, hc, starts_of_isDigit hdigit⟩
  | string => exact ⟨_, _, rfl, by decide, by decide⟩
  | emptyArray => exact ⟨_, _, rfl, by decide, by decide⟩
  | array => exact ⟨_, _, rfl, by decide, by decide⟩
  | emptyObject => exact ⟨_, _, rfl, by decide, by decide⟩
  | object => exact ⟨_, _, rfl, by decide, by decide⟩

theorem Elements.starts {xs : List Json} (h : Elements cs xs rest) :
    ∃ c more, cs = c :: more ∧ Starts c := by
  cases h with
  | last value => exact value.starts
  | more value => exact value.starts

theorem Members.starts {ms : List (Option String × Json)} (h : Members cs ms rest) :
    ∃ more, cs = '"' :: more := by
  cases h with
  | last member => cases member; exact ⟨_, rfl⟩
  | more member => cases member; exact ⟨_, rfl⟩

theorem Blanks.to_start (h : Blanks cs start) (hstart : ∃ c more, start = c :: more ∧ Starts c) :
    skipBlanks cs = start := by
  obtain ⟨c, more, rfl, hc⟩ := hstart
  exact h.skipBlanks_eq hc.notBlank

/-- Whatever is written is read with so much fuel: a value takes two units of it to come to the
values inside, which are at least a character shorter. -/
structure Complete (fuel : Nat) : Prop where
  value : ∀ {cs start rest j}, Value start j rest → Ends rest → skipBlanks cs = start →
    2 * start.length ≤ fuel → value? fuel cs = some (j, rest) ∧ rest.length < start.length
  elements : ∀ {cs start rest xs}, Elements start xs rest → skipBlanks cs = start →
    2 * start.length < fuel → elements? fuel cs = some (xs, rest) ∧ rest.length < start.length
  members : ∀ {cs start rest ms}, Members start ms rest → skipBlanks cs = start →
    2 * start.length < fuel → members? fuel cs = some (ms, rest) ∧ rest.length < start.length

theorem Units.length_lt {us : List Unit} (h : Units cs us rest) : rest.length < cs.length := by
  induction h with
  | close => exact Nat.lt_succ_self _
  | plain quote backslash control more ih => exact Nat.lt_succ_of_lt ih
  | letter escaped more ih => simp only [List.length_cons]; omega
  | code hex more ih => simp only [List.length_cons]; omega

theorem Quoted.length_lt {s : Option String} (h : Quoted cs s rest) : rest.length < cs.length := by
  cases h with
  | units units => exact units.length_lt

theorem Digits.length_lt (h : Digits cs ds rest) : rest.length < cs.length := by
  obtain ⟨rfl, hne, -⟩ := h
  have hpos := List.length_pos_iff.2 hne
  rw [List.length_append]
  omega

theorem Fraction.length_le (h : Fraction cs ds rest) : rest.length ≤ cs.length := by
  cases h with
  | missing => exact Nat.le_refl _
  | point digits => exact Nat.le_of_lt (Nat.lt_succ_of_lt digits.length_lt)

theorem Exponent.length_le {negative : Bool} (h : Exponent cs negative ds rest) :
    rest.length ≤ cs.length := by
  cases h with
  | missing => exact Nat.le_refl _
  | unsigned letter digits => exact Nat.le_of_lt (Nat.lt_succ_of_lt digits.length_lt)
  | signed letter mark digits =>
      exact Nat.le_of_lt (Nat.lt_succ_of_lt (Nat.lt_succ_of_lt digits.length_lt))

theorem Unsigned.length_lt {n : JsonNumber} (h : Unsigned cs n rest) : rest.length < cs.length := by
  obtain ⟨integer, fraction, exponent⟩ := h
  have hle := Nat.le_trans exponent.length_le fraction.length_le
  exact Nat.lt_of_le_of_lt hle integer.digits.length_lt

theorem Number.length_lt {n : JsonNumber} (h : Number cs n rest) : rest.length < cs.length := by
  cases h with
  | plain sign unsigned => exact unsigned.length_lt
  | negative sign unsigned => exact Nat.lt_succ_of_lt unsigned.length_lt

theorem value?_number {n : JsonNumber} (h : Number start n rest) (hrest : Ends rest)
    (hstart : skipBlanks cs = start) : value? (fuel + 1) cs = some (.number n, rest) := by
  obtain ⟨c, more, rfl, hc⟩ := h.starts
  unfold value?
  rw [hstart]
  split
  case h_1 heq => cases heq; exact absurd hc (by decide)
  case h_2 heq => cases heq; exact absurd hc (by decide)
  case h_3 heq => cases heq; exact absurd hc (by decide)
  case h_4 heq => cases heq; exact absurd hc (by decide)
  case h_5 heq => cases heq; exact absurd hc (by decide)
  case h_6 heq => cases heq; exact absurd hc (by decide)
  case h_7 => rw [h.readNumber?_eq hrest]; rfl

theorem Complete.value_succ (h : Complete fuel) {j : Json} (hwritten : Value start j rest)
    (hrest : Ends rest) (hstart : skipBlanks cs = start) (hfuel : 2 * start.length ≤ fuel + 1) :
    value? (fuel + 1) cs = some (j, rest) ∧ rest.length < start.length := by
  cases hwritten with
  | nullWord => rw [value?, hstart]; exact ⟨rfl, by simp only [List.length_cons]; omega⟩
  | trueWord => rw [value?, hstart]; exact ⟨rfl, by simp only [List.length_cons]; omega⟩
  | falseWord => rw [value?, hstart]; exact ⟨rfl, by simp only [List.length_cons]; omega⟩
  | number number => exact ⟨value?_number number hrest hstart, number.length_lt⟩
  | string quoted =>
      rw [value?, hstart]
      refine ⟨?_, Nat.lt_succ_of_lt quoted.length_lt⟩
      simp only [readString?_eq_some_iff.2 quoted, Option.map_some]
  | emptyArray close =>
      refine ⟨?_, Nat.lt_succ_of_lt close.length_le⟩
      rw [value?, hstart]
      simp only [close.skipBlanks_eq rfl]
  | @array cs' start' _ xs blanks elements =>
      have hskip : skipBlanks cs' = start' := blanks.to_start elements.starts
      have hlength := blanks.length_le
      rw [List.length_cons] at hfuel ⊢
      obtain ⟨hread, hlt⟩ := h.elements elements (hskip ▸ skipBlanks_skipBlanks cs') (by omega)
      obtain ⟨c, more, rfl, hc⟩ := elements.starts
      refine ⟨?_, by omega⟩
      rw [value?, hstart]
      simp only [hskip]
      split
      · rename_i heq
        cases heq
        exact absurd rfl hc.notClose
      · rw [hread]
        rfl
  | emptyObject close =>
      refine ⟨?_, Nat.lt_succ_of_lt close.length_le⟩
      rw [value?, hstart]
      simp only [close.skipBlanks_eq rfl]
  | @object cs' start' _ ms blanks members =>
      obtain ⟨more, rfl⟩ := members.starts
      have hskip : skipBlanks cs' = '"' :: more := blanks.skipBlanks_eq rfl
      have hlength := blanks.length_le
      rw [List.length_cons] at hfuel ⊢
      obtain ⟨hread, hlt⟩ := h.members members (hskip ▸ skipBlanks_skipBlanks cs') (by omega)
      refine ⟨?_, by omega⟩
      rw [value?, hstart]
      simp only [hskip]
      exact congrArg (Option.map _) hread

theorem Complete.elements_succ (h : Complete fuel) {xs : List Json}
    (hwritten : Elements start xs rest) (hstart : skipBlanks cs = start)
    (hfuel : 2 * start.length < fuel + 1) :
    elements? (fuel + 1) cs = some (xs, rest) ∧ rest.length < start.length := by
  cases hwritten with
  | last value close =>
      obtain ⟨hread, hlt⟩ := h.value value (close.ends rfl) hstart (by omega)
      have hlength := close.length_le
      rw [List.length_cons] at hlength
      refine ⟨?_, by omega⟩
      rw [elements?, hread, Option.bind_eq_bind, Option.bind_some]
      simp only [close.skipBlanks_eq rfl]
      rfl
  | more value comma blanks elements =>
      obtain ⟨hread, hlt⟩ := h.value value (comma.ends rfl) hstart (by omega)
      have hafter := comma.length_le
      have hnext := blanks.length_le
      rw [List.length_cons] at hafter
      obtain ⟨hmore, hless⟩ := h.elements elements (blanks.to_start elements.starts) (by omega)
      refine ⟨?_, by omega⟩
      rw [elements?, hread, Option.bind_eq_bind, Option.bind_some]
      simp only [comma.skipBlanks_eq rfl, hmore]
      rfl

theorem Complete.member (h : Complete fuel) {m : Option String × Json} {next : List Char}
    (hwritten : Member start m next) (hnext : Ends next) (hfuel : 2 * start.length < fuel + 1) :
    ∃ quoted colon value, start = '"' :: quoted ∧ readString? quoted = some (m.1, colon) ∧
      skipBlanks colon = ':' :: value ∧ value? fuel value = some (m.2, next) ∧
      next.length < start.length := by
  cases hwritten with
  | pair quoted colon blanks value =>
      have hquoted := quoted.length_lt
      have hcolon := colon.length_le
      have hblanks := blanks.length_le
      rw [List.length_cons] at hfuel hcolon
      obtain ⟨hread, hlt⟩ := h.value value hnext (blanks.to_start value.starts) (by omega)
      refine ⟨_, _, _, rfl, readString?_eq_some_iff.2 quoted, colon.skipBlanks_eq rfl, hread, ?_⟩
      rw [List.length_cons]
      omega

theorem Complete.members_succ (h : Complete fuel) {ms : List (Option String × Json)}
    (hwritten : Members start ms rest) (hstart : skipBlanks cs = start)
    (hfuel : 2 * start.length < fuel + 1) :
    members? (fuel + 1) cs = some (ms, rest) ∧ rest.length < start.length := by
  cases hwritten with
  | last member close =>
      obtain ⟨quoted, colon, value, rfl, hkey, hcolon, hvalue, hlt⟩ :=
        h.member member (close.ends rfl) hfuel
      have hlength := close.length_le
      rw [List.length_cons] at hlength
      refine ⟨?_, by omega⟩
      rw [members?, hstart]
      simp only [hkey, hcolon, hvalue, close.skipBlanks_eq rfl, Option.bind_eq_bind,
        Option.bind_some]
      rfl
  | more member comma blanks members =>
      obtain ⟨quoted, colon, value, rfl, hkey, hcolon, hvalue, hlt⟩ :=
        h.member member (comma.ends rfl) hfuel
      have hafter := comma.length_le
      have hnext := blanks.length_le
      rw [List.length_cons] at hafter
      obtain ⟨next, rfl⟩ := members.starts
      obtain ⟨hmore, hless⟩ := h.members members (blanks.skipBlanks_eq rfl) (by omega)
      refine ⟨?_, by omega⟩
      rw [members?, hstart]
      simp only [hkey, hcolon, hvalue, comma.skipBlanks_eq rfl, hmore, Option.bind_eq_bind,
        Option.bind_some]
      rfl

theorem complete (fuel : Nat) : Complete fuel := by
  induction fuel with
  | zero =>
      refine ⟨fun h _ _ hfuel => ?_, fun _ _ hfuel => ?_, fun _ _ hfuel => ?_⟩
      · obtain ⟨c, more, rfl, -⟩ := h.starts
        cases hfuel
      · cases hfuel
      · cases hfuel
  | succ fuel ih => exact ⟨ih.value_succ, ih.elements_succ, ih.members_succ⟩

end Grammar

/-- A text is read exactly if it is a document. -/
theorem parse_eq_some_iff {text : String} {j : Json} : parse text = some j ↔ Document text j := by
  constructor
  · intro h
    simp only [parse] at h
    split at h
    · rename_i hread
      obtain ⟨hend, heq⟩ := Option.ite_none_right_eq_some.1 h
      cases heq
      exact ⟨_, _, Grammar.blanks_skipBlanks _, (Grammar.sound _).value hread,
        Grammar.blanks_nil_iff.2 hend⟩
    · cases h
  · rintro ⟨start, rest, hblanks, hvalue, hend⟩
    have hlength := hblanks.length_le
    have hread := (Grammar.complete (2 * text.toList.length + 2)).value hvalue hend.ends_nil
      (hblanks.to_start hvalue.starts) (by omega)
    simp only [parse, hread.1]
    exact if_pos (Grammar.blanks_nil_iff.1 hend)

end Json

end WafControl
