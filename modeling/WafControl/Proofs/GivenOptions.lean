import Mathlib.Data.List.Basic
import WafControl.Data.Outcome
import WafControl.Settings.Settings

/-!
# What a command line gives to an option

Whatever the words are, and in whatever order they come: the value of an option is one that its
kind reads (`given_parse`). So a poll interval that is accepted is a number of 64 bits; and every
such number is accepted (`accepted_iff`).
-/

namespace WafControl

namespace Net

variable {base limit n : Nat} {most : Option Nat} {cs rest : List Char}

theorem number?_lt (h : number? base limit most cs = some (n, rest)) : n < limit := by
  simp only [number?] at h
  split at h
  · cases h
  · rename_i hread
    cases h
    exact Nat.lt_of_not_le fun hle => hread (.inr (.inl hle))

theorem whole_eq_some {α : Type} {r : Option (α × List Char)} {a : α} (h : whole r = some a) :
    r = some (a, []) := by
  unfold whole at h
  split at h
  · cases h
    rfl
  · cases h

theorem digit?_of_isDigit {c : Char} (h : c.isDigit) : digit? 10 c = some (c.toNat - 48) := by
  have hc : '0' ≤ c ∧ c ≤ '9' := by simpa [Char.isDigit, Char.le_def] using h
  have hlt : c.toNat - 48 < 10 := by
    have h9 : c.toNat ≤ 57 := hc.2
    omega
  simp only [digit?, if_pos hc, if_pos hlt]

theorem frontDigits_of_isDigit {ds : List Char} (h : ∀ c ∈ ds, c.isDigit) :
    frontDigits 10 ds = (ds.map fun c => c.toNat - 48, []) := by
  induction ds with
  | nil => rfl
  | cons c ds ih =>
      obtain ⟨hc, hds⟩ := List.forall_mem_cons.1 h
      simp only [frontDigits, digit?_of_isDigit hc, ih hds, List.map_cons]

theorem foldl_digits (ds : List Char) (m : Nat) :
    (ds.map fun c => c.toNat - 48).foldl (fun n d => n * 10 + d) m = Nat.ofDigitChars 10 ds m := by
  rw [Nat.ofDigitChars_eq_foldl, List.foldl_map]
  simp only [Nat.mul_comm]
  rfl

/-- A number below the limit is read back from its digits. -/
theorem number?_toDigits (h : n < limit) :
    number? 10 limit none (Nat.toDigits 10 n) = some (n, []) := by
  have hdigits : ∀ c ∈ Nat.toDigits 10 n, c.isDigit := fun c hc =>
    Nat.isDigit_of_mem_toDigits (by decide) (by decide) hc
  have hne : (Nat.toDigits 10 n).map (fun c => c.toNat - 48) ≠ [] := by
    simp [Nat.toDigits_ne_nil]
  simp only [number?, frontDigits_of_isDigit hdigits, foldl_digits, Nat.ofDigitChars_ten_toDigits]
  exact if_neg (by simp [hne, Nat.not_le.2 h])

end Net

namespace OptionKind

theorem unsigned?_lt {cs : List Char} {n : Nat} (h : unsigned? cs = some n) : n < UInt64.size := by
  unfold unsigned? at h
  split at h <;> exact Net.number?_lt (Net.whole_eq_some h)

theorem head_toDigits (n : Nat) : ∃ c ds, Nat.toDigits 10 n = c :: ds ∧ c.isDigit := by
  cases h : Nat.toDigits 10 n with
  | nil => exact absurd h Nat.toDigits_ne_nil
  | cons c ds =>
      refine ⟨c, ds, rfl, Nat.isDigit_of_mem_toDigits (n := n) (by decide : 0 < 10) (by decide) ?_⟩
      rw [h]
      exact List.mem_cons_self

theorem head?_toString_ne (n : Nat) : (toString n).toList.head? ≠ some '-' := by
  obtain ⟨c, ds, hds, hc⟩ := head_toDigits n
  rw [Nat.toString_eq_ofList_toDigits, String.toList_ofList, hds]
  intro heq
  cases heq
  exact absurd hc (by decide)

theorem unsigned?_toDigits {n : Nat} (h : n < UInt64.size) :
    unsigned? (Nat.toDigits 10 n) = some n := by
  have hread := Net.number?_toDigits h
  obtain ⟨c, ds, hds, hc⟩ := head_toDigits n
  rw [hds] at hread ⊢
  unfold unsigned?
  split
  · rename_i heq
    cases heq
    exact absurd hc (by decide)
  · rw [hread]
    rfl

theorem number_of_read_count {text : String} {v : OptionValue} (h : count.read text = .ok v) :
    ∃ n < UInt64.size, v = .number n := by
  simp only [read] at h
  split at h
  · rename_i hv
    cases h
    obtain ⟨n, hn, rfl⟩ := Option.map_eq_some_iff.1 hv
    exact ⟨n, unsigned?_lt hn, rfl⟩
  · cases h

theorem read_count {n : Nat} (h : n < UInt64.size) : count.read (toString n) = .ok (.number n) := by
  simp only [read, Nat.toString_eq_ofList_toDigits, String.toList_ofList, unsigned?_toDigits h,
    Option.map_some]

end OptionKind

namespace CommandLine

variable {options : OptionTable} {s s' : State} {name : String} {kind : OptionKind}

/-- The values of options are ones that their kinds read. -/
def Given (options : OptionTable) (values : Table String OptionValue) : Prop :=
  ∀ name v, values.find? name = some v →
    ∃ kind text, options.lookup name = some kind ∧ kind.read text = .ok v

structure State.Lawful (options : OptionTable) (s : State) : Prop where
  values : Given options s.values
  pending : ∀ p, s.pending = some p → options.lookup p.name = some p.kind

theorem State.Lawful.give {text : String} (h : s.Lawful options)
    (hkind : options.lookup name = some kind) (hs : give s name (kind.read text) = .ok s') :
    s'.Lawful options := by
  unfold CommandLine.give at hs
  split at hs
  · cases hs
  · obtain ⟨v, hread, rfl⟩ := exists_ok_of_map hs
    refine ⟨fun name' v' hv' => ?_, h.pending⟩
    by_cases hname : name' = name
    · subst hname
      rw [Table.find?_insert_self] at hv'
      cases hv'
      exact ⟨kind, text, hkind, hread⟩
    · rw [Table.find?_insert_of_ne _ hname] at hv'
      exact h.values name' v' hv'

theorem State.Lawful.settle (h : s.Lawful options) (hs : settle s = .ok s') :
    s'.Lawful options := by
  unfold CommandLine.settle at hs
  split at hs
  · cases hs
    exact h
  · rename_i p hp
    split at hs
    · cases hs
    · have hrest : State.Lawful options { s with pending := none } :=
        ⟨h.values, fun _ hnone => by cases hnone⟩
      exact hrest.give (h.pending p hp) hs

theorem State.Lawful.takeOption (h : s.Lawful options) {cs : List Char}
    (hs : takeOption options s cs = .ok s') : s'.Lawful options := by
  unfold CommandLine.takeOption at hs
  simp only at hs
  split at hs
  · cases hs
  · cases hs
  · rename_i hkind _
    obtain ⟨settled, hsettled, hgive⟩ := exists_ok_of_bind hs
    have hset : OptionKind.flag.read "" = .ok .set := rfl
    rw [← hset] at hgive
    exact (h.settle hsettled).give hkind hgive
  · rename_i hkind _
    obtain ⟨settled, hsettled, hgive⟩ := exists_ok_of_bind hs
    exact (h.settle hsettled).give hkind hgive
  · rename_i hkind _
    obtain ⟨settled, hsettled, hpure⟩ := exists_ok_of_bind hs
    cases hpure
    refine ⟨(h.settle hsettled).values, fun p hp => ?_⟩
    cases hp
    exact hkind

theorem State.Lawful.takeWord (h : s.Lawful options) {word : String}
    (hs : takeWord options s word = .ok s') : s'.Lawful options := by
  unfold CommandLine.takeWord at hs
  split at hs
  · exact h.takeOption hs
  · cases hs
  · split at hs
    · rename_i name kind hp
      cases hs
      refine ⟨h.values, fun p hp' => ?_⟩
      cases hp'
      exact h.pending { name, kind } hp
    · cases hs

theorem State.Lawful.takeWords {words : List String} (h : s.Lawful options)
    (hs : takeWords options s words = .ok s') : s'.Lawful options := by
  induction words generalizing s with
  | nil => exact h.settle hs
  | cons word words ih =>
      unfold CommandLine.takeWords at hs
      split at hs
      · split at hs
        · exact h.settle hs
        · cases hs
      · obtain ⟨taken, htaken, hrest⟩ := exists_ok_of_bind hs
        exact ih (h.takeWord htaken) hrest

theorem takeWords_cons {word : String} {words : List String} (hword : word ≠ "--")
    (h : takeWord options s word = .ok s') :
    takeWords options s (word :: words) = takeWords options s' words := by
  rw [takeWords, if_neg hword, h]
  rfl

/-- A word that does not start with a hyphen is the value of the option before it. -/
theorem takeWord_value (options : OptionTable) (hs : s.pending = some { name, kind })
    {word : String} (hword : word.toList.head? ≠ some '-') :
    takeWord options s word =
      .ok { s with pending := some { name, kind, value := some word } } := by
  unfold takeWord
  split
  · rename_i heq
    exact absurd (by rw [heq]; rfl) hword
  · rename_i heq
    exact absurd (by rw [heq]; rfl) hword
  · rw [hs]

/-- Each value of a command line was read from a text, as the kind of its option asks. -/
theorem given_parse {words : List String} {values : Table String OptionValue}
    (h : parse options words = .ok values) : Given options values := by
  obtain ⟨s, hs, rfl⟩ := exists_ok_of_map h
  have hstart : State.Lawful options {} :=
    ⟨fun name v hv => (by cases hv), fun p hp => (by cases hp)⟩
  exact (hstart.takeWords hs).values

end CommandLine

namespace Settings

/-- There is a command line, and an environment, with which the controller starts and polls at this
interval. -/
def Accepted (interval : Nat) : Prop :=
  ∃ words env s, ofCommandLine words env = .ok s ∧ s.refusal? = none ∧ s.pollIntervalMs = interval

theorem pollIntervalMs_lt {words : List String} {env : Environment} {s : Settings}
    (h : ofCommandLine words env = .ok s) : s.pollIntervalMs < UInt64.size := by
  obtain ⟨values, hvalues, rfl⟩ := exists_ok_of_map h
  simp only [ofValues]
  cases hn : number? values "poll-interval-ms" with
  | none => decide
  | some n =>
      rw [number?] at hn
      split at hn
      · rename_i hfind
        cases hn
        obtain ⟨kind, text, hkind, hread⟩ := CommandLine.given_parse hvalues _ _ hfind
        have hcount : options.lookup "poll-interval-ms" = some .count := rfl
        cases hcount.symm.trans hkind
        obtain ⟨m, hm, heq⟩ := OptionKind.number_of_read_count hread
        cases heq
        exact hm
      · cases hn

/-- The words that ask for a poll interval and for no relays. -/
def pollingEvery (interval : Nat) : List String :=
  ["--relay-disabled", "--poll-interval-ms", toString interval]

theorem ofCommandLine_pollingEvery {interval : Nat} (h : interval < UInt64.size) :
    ofCommandLine (pollingEvery interval) {} =
      .ok { relayDisabled := true, pollIntervalMs := interval } := by
  let disabled : CommandLine.State := { values := ⟨[("relay-disabled", .set)]⟩ }
  let asked : CommandLine.State :=
    { disabled with pending := some { name := "poll-interval-ms", kind := .count } }
  have hflag : CommandLine.takeWord options {} "--relay-disabled" = .ok disabled := rfl
  have hname : CommandLine.takeWord options disabled "--poll-interval-ms" = .ok asked := rfl
  have hvalue := CommandLine.takeWord_value options (s := asked) rfl
    (OptionKind.head?_toString_ne interval)
  have hdone : CommandLine.takeWords options {} (pollingEvery interval) =
      .ok { values := disabled.values.insert "poll-interval-ms" (.number interval) } := by
    rw [pollingEvery, CommandLine.takeWords_cons (by decide) hflag,
      CommandLine.takeWords_cons (by decide) hname, CommandLine.takeWords_cons ?_ hvalue]
    · exact congrArg (CommandLine.give disabled "poll-interval-ms") (OptionKind.read_count h)
    · intro heq
      exact OptionKind.head?_toString_ne interval (by rw [heq]; rfl)
  rw [ofCommandLine, CommandLine.parse, hdone]
  rfl

theorem refusal?_pollingEvery (interval : Nat) :
    refusal? { relayDisabled := true, pollIntervalMs := interval } = none := by
  have hserver : RequestTarget.isServer "http://localhost:8080" = true := by
    have hvalid : RequestTarget.isValid "http://localhost:8080" = true := by decide +kernel
    rw [RequestTarget.isServer, hvalid, Bool.or_true]
  exact if_pos hserver

theorem accepted_iff (interval : Nat) : Accepted interval ↔ interval < UInt64.size := by
  constructor
  · rintro ⟨words, env, s, hs, -, rfl⟩
    exact pollIntervalMs_lt hs
  · intro h
    exact ⟨pollingEvery interval, {}, _, ofCommandLine_pollingEvery h,
      refusal?_pollingEvery interval, rfl⟩

end Settings

end WafControl
