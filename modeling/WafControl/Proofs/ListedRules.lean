import Mathlib.Data.List.Permutation
import WafControl.Redirect.CommandLine
import WafControl.Proofs.InOrder
import WafControl.Proofs.JsonRecords
import WafControl.Proofs.Pointwise

/-!
# Listed rules

The listing of a ruleset holds objects, each under its kind. `Says` is what such an object says: a
chain or a rule has to be written as one, be it as an object or as the list of its members, and of
other kinds nothing is asked but that they can be read. A listing can be used if everything in it
is well formed; it then has the comments of exactly the rules of the relay's chain, in their order
and wherever the chain itself stands, or none at all without that chain (`listed_rules`). Anything
else in it may come and go.

`Says` is written without the reader, and `said?_eq_some_iff` is where the two meet.
-/

namespace WafControl

/-- The value that counts for a key of an object: the last one. -/
def Json.last? (key : String) (members : List (Option String × Json)) : Option Json :=
  (valuesOf key members).getLast?

inductive ListedChain.WrittenAs (c : ListedChain) : Json → Prop
  | object {members : List (Option String × Json)}
      (family : Json.last? "family" members = some (.string (some c.family)))
      (table : Json.last? "table" members = some (.string (some c.table)))
      (name : Json.last? "name" members = some (.string (some c.name))) :
      c.WrittenAs (.object members)
  | list : c.WrittenAs
      (.array [.string (some c.family), .string (some c.table), .string (some c.name)])

inductive ListedRule.WrittenAs (r : ListedRule) : Json → Prop
  | object {members : List (Option String × Json)}
      (family : Json.last? "family" members = some (.string (some r.family)))
      (table : Json.last? "table" members = some (.string (some r.table)))
      (chain : Json.last? "chain" members = some (.string (some r.chain)))
      (comment : Json.TextIfAny (Json.last? "comment" members) r.comment) :
      r.WrittenAs (.object members)
  | short (comment : Json.TextIfAny none r.comment) : r.WrittenAs
      (.array [.string (some r.family), .string (some r.table), .string (some r.chain)])
  | list {j : Json} (comment : Json.TextIfAny (some j) r.comment) : r.WrittenAs
      (.array [.string (some r.family), .string (some r.table), .string (some r.chain), j])

namespace Listing

/-- What an object of a listing says, given with its kind. -/
inductive Says (o : String × Json) : ListedEntry → Prop
  | chain {c : ListedChain} (kind : o.1 = "chain") (written : c.WrittenAs o.2) : Says o (.chain c)
  | rule {r : ListedRule} (kind : o.1 = "rule") (written : r.WrittenAs o.2) : Says o (.rule r)
  | other (chain : o.1 ≠ "chain") (rule : o.1 ≠ "rule") : Says o .other

/-- The relay's chain. -/
def relayChain : ListedChain := ⟨"inet", "appsecgw", "prerouting"⟩

/-- A rule of the relay's chain. -/
def relayRule (comment : Option String) : ListedRule := ⟨"inet", "appsecgw", "prerouting", comment⟩

/-- The object can be read, and one that should be a chain or a rule is one. -/
structure WellFormed (o : String × Json) : Prop where
  readable : o.2.readable entryDepth = true
  formed : ∃ e, Says o e

/-- The object is well formed and about something else than the relay's chain. -/
structure Foreign (o : String × Json) : Prop where
  readable : o.2.readable entryDepth = true
  about : ∃ e, Says o e ∧ e ≠ .chain relayChain ∧ ∀ comment, e ≠ .rule (relayRule comment)

/-- The entry of a listing that holds just this object. -/
def entry (o : String × Json) : Json := .object [(some o.1, o.2)]

/-- What is read from an object. -/
def said? (o : String × Json) : Option ListedEntry := entry? (entry o)

/-- The text lists the objects, each in an entry of its own. -/
def Lists (text : String) (objects : List (String × Json)) : Prop :=
  ∃ members, Json.parse text = some (.object members) ∧ (∀ m ∈ members, m.1.isSome = true) ∧
    Json.valuesOf "nftables" members = [.array (objects.map entry)]

/-- The relay's chain, or a rule of it, is among the objects. -/
def ShowsChain (objects : List (String × Json)) : Prop :=
  (∃ o ∈ objects, Says o (.chain relayChain)) ∨
    ∃ o ∈ objects, ∃ comment, Says o (.rule (relayRule comment))

/-- A rule of the relay's chain with the comment stands at a place among the objects. -/
def RuleAt (objects : List (String × Json)) (i : Nat) (comment : Option String) : Prop :=
  ∃ o, objects[i]? = some o ∧ Says o (.rule (relayRule comment))

/-- The objects are the same but for foreign ones, which may have been added and removed. -/
inductive SameButForeign : List (String × Json) → List (String × Json) → Prop
  | nil : SameButForeign [] []
  | kept {os os' : List (String × Json)} (o : String × Json) (rest : SameButForeign os os') :
      SameButForeign (o :: os) (o :: os')
  | added {os os' : List (String × Json)} {o : String × Json} (foreign : Foreign o)
      (rest : SameButForeign os os') : SameButForeign os (o :: os')
  | removed {os os' : List (String × Json)} {o : String × Json} (foreign : Foreign o)
      (rest : SameButForeign os os') : SameButForeign (o :: os) os'

end Listing

/-- A use of the program lists this text. -/
structure ScriptedProgram.Gives (p : ScriptedProgram) (text : String) : Prop where
  found : p.missing = false
  ended : p.listExit.isSuccess = true
  given : p.ruleset = text

/-! ### One object -/

namespace Json

/-- The members of a record are the last ones of an object, or stand in a list in their order. -/
theorem mapRecord?_eq_some_iff {keys : List String} {j : Json} {values : List (Option Json)} :
    j.mapRecord? keys = some values ↔
      (∃ members, j = .object members ∧ keys.map (last? · members) = values) ∨
        ∃ xs, j = .array xs ∧ positional? keys.length xs = some values := by
  cases j <;> simp [mapRecord?, last?]

end Json

namespace ListedChain

theorem ofJson?_eq_some_iff {j : Json} {c : ListedChain} : ofJson? j = some c ↔ c.WrittenAs j := by
  have hvalues : ofJson? j = some c ↔ j.mapRecord? ["family", "table", "name"] = some
      [some (.string (some c.family)), some (.string (some c.table)),
        some (.string (some c.name))] := by
    unfold ofJson?
    rw [Option.bind_eq_bind, Option.bind_eq_some_iff]
    constructor
    · rintro ⟨values, hvalues, h⟩
      split at h
      · simp only [Option.bind_eq_bind, Option.bind_eq_some_iff, Json.text?_eq_some_iff] at h
        obtain ⟨family, rfl, table, rfl, name, rfl, h⟩ := h
        cases h
        exact hvalues
      · cases h
    · intro h
      exact ⟨_, h, rfl⟩
  rw [hvalues, Json.mapRecord?_eq_some_iff]
  constructor
  · rintro (⟨members, rfl, hm⟩ | ⟨xs, rfl, hx⟩)
    · simp only [List.map_cons, List.map_nil, List.cons.injEq] at hm
      exact .object hm.1 hm.2.1 hm.2.2.1
    · match xs, hx with
      | [_, _, _], hx => cases hx; exact .list
  · rintro (⟨family, table, name⟩ | _)
    · exact .inl ⟨_, rfl, by simp [family, table, name]⟩
    · exact .inr ⟨_, rfl, rfl⟩

end ListedChain

namespace ListedRule

theorem ofJson?_eq_some_iff {j : Json} {r : ListedRule} : ofJson? j = some r ↔ r.WrittenAs j := by
  have hvalues : ofJson? j = some r ↔ ∃ comment, Json.TextIfAny comment r.comment ∧
      j.mapRecord? ["family", "table", "chain", "comment"] = some
        [some (.string (some r.family)), some (.string (some r.table)),
          some (.string (some r.chain)), comment] := by
    unfold ofJson?
    rw [Option.bind_eq_bind, Option.bind_eq_some_iff]
    constructor
    · rintro ⟨values, hvalues, h⟩
      split at h
      · simp only [Option.bind_eq_bind, Option.bind_eq_some_iff, Json.text?_eq_some_iff,
          Json.optional?_text?_eq_some_iff] at h
        obtain ⟨family, rfl, table, rfl, chain, rfl, comment, hcomment, h⟩ := h
        cases h
        exact ⟨_, hcomment, hvalues⟩
      · cases h
    · rintro ⟨comment, hcomment, h⟩
      refine ⟨_, h, ?_⟩
      simp [Json.text?, Json.optional?_text?_eq_some_iff.2 hcomment]
  simp only [hvalues, Json.mapRecord?_eq_some_iff]
  constructor
  · rintro ⟨comment, hcomment, ⟨members, rfl, hm⟩ | ⟨xs, rfl, hx⟩⟩
    · simp only [List.map_cons, List.map_nil, List.cons.injEq] at hm
      obtain ⟨hfamily, htable, hchain, rfl, -⟩ := hm
      exact .object hfamily htable hchain hcomment
    · -- only three values, or four, fill the places that have to be filled
      rcases xs with _ | ⟨family, _ | ⟨table, _ | ⟨chain, _ | ⟨last, _ | ⟨more, xs⟩⟩⟩⟩⟩
      · cases hx
      · cases hx
      · cases hx
      · cases hx
        exact .short hcomment
      · cases hx
        exact .list hcomment
      · cases hx
  · rintro (⟨family, table, chain, comment⟩ | comment | comment)
    · exact ⟨_, comment, .inl ⟨_, rfl, by simp [family, table, chain]⟩⟩
    · exact ⟨_, comment, .inr ⟨_, rfl, rfl⟩⟩
    · exact ⟨_, comment, .inr ⟨_, rfl, rfl⟩⟩

end ListedRule

namespace Listing

variable {o : String × Json} {e : ListedEntry} {es : List ListedEntry}
  {objects objects' : List (String × Json)} {text text' : String} {p : ScriptedProgram}

theorem said?_eq_some_iff :
    said? o = some e ↔ o.2.readable entryDepth = true ∧ Says o e := by
  obtain ⟨kind, j⟩ := o
  by_cases hread : j.readable entryDepth = true
  swap
  · simp [said?, entry, entry?, Json.readableMembers, hread]
  have hentry : said? (kind, j) =
      if kind = "chain" then (ListedChain.ofJson? j).map .chain
      else if kind = "rule" then (ListedRule.ofJson? j).map .rule
      else some .other := by
    by_cases hc : kind = "chain" <;> by_cases hr : kind = "rule" <;>
      simp [said?, entry, entry?, Json.readableMembers, Json.valuesOf, hread, hc, hr]
  rw [hentry, and_iff_right hread]
  constructor
  · intro h
    split at h
    case isTrue hc =>
      obtain ⟨c, hj, rfl⟩ := Option.map_eq_some_iff.1 h
      exact .chain hc (ListedChain.ofJson?_eq_some_iff.1 hj)
    case isFalse hc =>
      split at h
      case isTrue hr =>
        obtain ⟨r, hj, rfl⟩ := Option.map_eq_some_iff.1 h
        exact .rule hr (ListedRule.ofJson?_eq_some_iff.1 hj)
      case isFalse hr =>
        cases h
        exact .other hc hr
  · rintro (⟨hc, written⟩ | ⟨hr, written⟩ | ⟨hc, hr⟩)
    · rw [if_pos hc, ListedChain.ofJson?_eq_some_iff.2 written]
      rfl
    · rw [if_neg (by simp [show kind = "rule" from hr]), if_pos hr,
        ListedRule.ofJson?_eq_some_iff.2 written]
      rfl
    · rw [if_neg hc, if_neg hr]

theorem wellFormed_iff : WellFormed o ↔ ∃ e, said? o = some e := by
  simp only [said?_eq_some_iff]
  exact ⟨fun ⟨hread, e, he⟩ => ⟨e, hread, he⟩, fun ⟨e, hread, he⟩ => ⟨hread, e, he⟩⟩

theorem isRelay_chain_iff {c : ListedChain} : c.isRelay = true ↔ c = relayChain := by
  cases c
  simp [ListedChain.isRelay, relayChain, Redirect.family, Redirect.tableName, Redirect.chainName,
    and_assoc]

theorem isRelay_rule_iff {r : ListedRule} : r.isRelay = true ↔ r = relayRule r.comment := by
  cases r
  simp [ListedRule.isRelay, relayRule, Redirect.family, Redirect.tableName, Redirect.chainName,
    and_assoc]

theorem relayComment?_eq_some_iff {comment : Option String} :
    relayComment? e = some comment ↔ e = .rule (relayRule comment) := by
  cases e with
  | rule r =>
      simp only [relayComment?, isRelay_rule_iff, Option.ite_none_right_eq_some, Option.some.injEq,
        ListedEntry.rule.injEq]
      constructor
      · rintro ⟨hr, rfl⟩
        exact hr
      · rintro rfl
        exact ⟨rfl, rfl⟩
  | _ => simp [relayComment?]

theorem showsRelayChain_iff : showsRelayChain e = true ↔
    e = .chain relayChain ∨ ∃ comment, e = .rule (relayRule comment) := by
  cases e with
  | chain c => simp [showsRelayChain, isRelay_chain_iff]
  | rule r =>
      simp only [showsRelayChain, isRelay_rule_iff, reduceCtorEq, false_or, ListedEntry.rule.injEq]
      exact ⟨fun hr => ⟨r.comment, hr⟩, fun ⟨comment, hr⟩ => hr ▸ rfl⟩
  | other => simp [showsRelayChain]

/-! ### All objects -/

/-- What the objects say, if all are well formed. -/
def read? (objects : List (String × Json)) : Option (List ListedEntry) :=
  objects.mapM said?

theorem Lists.entries?_eq (h : Lists text objects) :
    (Json.parse text).bind entries? = read? objects := by
  obtain ⟨members, hparse, hkeys, hvalues⟩ := h
  have hrecord : Json.record? ["nftables"] (.object members) =
      some [some (.array (objects.map entry))] := by
    simp [Json.record?, Json.once?, hvalues, List.all_eq_true.2 hkeys]
  rw [hparse, Option.bind_some, entries?, hrecord]
  exact List.mapM_map

theorem Lists.relayComments?_of_read (h : Lists text objects) (hes : read? objects = some es) :
    relayComments? text = .ok (relayComments es) := by
  rw [relayComments?, h.entries?_eq, hes]

theorem Lists.relayComments?_of_malformed (h : Lists text objects)
    (hbad : ∃ o ∈ objects, ¬ WellFormed o) : relayComments? text = .error .json := by
  obtain ⟨o, ho, hbad⟩ := hbad
  have hnone : read? objects = none := by
    refine mapM_eq_none_iff.2 ⟨o, ho, ?_⟩
    rw [wellFormed_iff] at hbad
    exact Option.eq_none_iff_forall_ne_some.2 fun e he => hbad ⟨e, he⟩
  rw [relayComments?, h.entries?_eq, hnone]

theorem exists_read (hw : ∀ o ∈ objects, WellFormed o) : ∃ es, read? objects = some es := by
  rw [← Option.ne_none_iff_exists', ne_eq, read?, mapM_eq_none_iff]
  rintro ⟨o, ho, hnone⟩
  obtain ⟨e, he⟩ := wellFormed_iff.1 (hw o ho)
  rw [hnone] at he
  cases he

theorem mem_read_iff (hw : ∀ o ∈ objects, WellFormed o) (hes : read? objects = some es) :
    e ∈ es ↔ ∃ o ∈ objects, Says o e := by
  simp only [mem_of_mapM hes, said?_eq_some_iff]
  exact exists_congr fun o => and_congr_right fun ho => and_iff_right (hw o ho).readable

theorem getElem?_read_iff (hw : ∀ o ∈ objects, WellFormed o) (hes : read? objects = some es)
    (i : Nat) : es[i]? = some e ↔ ∃ o, objects[i]? = some o ∧ Says o e := by
  simp only [getElem?_of_mapM hes, Option.bind_eq_some_iff, said?_eq_some_iff]
  exact exists_congr fun o => and_congr_right fun ho =>
    and_iff_right (hw o (List.mem_of_getElem? ho)).readable

theorem any_showsRelayChain_iff (hw : ∀ o ∈ objects, WellFormed o)
    (hes : read? objects = some es) : es.any showsRelayChain = true ↔ ShowsChain objects := by
  simp only [List.any_eq_true, showsRelayChain_iff]
  constructor
  · rintro ⟨e, he, rfl | ⟨comment, rfl⟩⟩
    · exact .inl ((mem_read_iff hw hes).1 he)
    · obtain ⟨o, ho, hsays⟩ := (mem_read_iff hw hes).1 he
      exact .inr ⟨o, ho, comment, hsays⟩
  · rintro (⟨o, ho, hsays⟩ | ⟨o, ho, comment, hsays⟩)
    · exact ⟨_, (mem_read_iff hw hes).2 ⟨o, ho, hsays⟩, .inl rfl⟩
    · exact ⟨_, (mem_read_iff hw hes).2 ⟨o, ho, hsays⟩, .inr ⟨comment, rfl⟩⟩

theorem inOrder_relayComments (hw : ∀ o ∈ objects, WellFormed o) (hes : read? objects = some es) :
    InOrder (RuleAt objects) (es.filterMap relayComment?) := by
  refine (InOrder.filterMap relayComment? es).congr fun i comment => ?_
  simp only [relayComment?_eq_some_iff, exists_eq_right, getElem?_read_iff hw hes, RuleAt]

/-! ### Foreign objects -/

/-- What the objects say about the relay's chain, if all are well formed. -/
def shown? (objects : List (String × Json)) : Option (List ListedEntry) :=
  (read? objects).map (·.filter showsRelayChain)

theorem shown?_cons (o : String × Json) (os : List (String × Json)) :
    shown? (o :: os) =
      (said? o).bind fun e => (shown? os).map ([e].filter showsRelayChain ++ ·) := by
  rw [shown?, shown?, read?, read?, List.mapM_cons]
  cases said? o with
  | none => rfl
  | some e =>
      cases os.mapM said? with
      | none => rfl
      | some es => simp [← List.filter_append]

theorem relayComments_filter (es : List ListedEntry) :
    relayComments (es.filter showsRelayChain) = relayComments es := by
  have hcomment : (fun e => if showsRelayChain e then relayComment? e else none) =
      relayComment? := by
    funext e
    rw [ite_eq_left_iff]
    intro hshown
    refine (Option.eq_none_iff_forall_ne_some.2 fun comment he => hshown ?_).symm
    exact showsRelayChain_iff.2 (.inr ⟨comment, relayComment?_eq_some_iff.1 he⟩)
  simp only [relayComments, List.any_filter, Bool.and_self, List.filterMap_filter, hcomment]

theorem Lists.relayComments?_eq (h : Lists text objects) :
    relayComments? text = match shown? objects with
      | some es => .ok (relayComments es)
      | none => .error .json := by
  rw [relayComments?, h.entries?_eq, shown?]
  cases read? objects with
  | none => rfl
  | some es => exact congrArg Except.ok (relayComments_filter es).symm

theorem shown?_cons_of_foreign (hf : Foreign o) (os : List (String × Json)) :
    shown? (o :: os) = shown? os := by
  obtain ⟨hread, e, hsays, hchain, hrule⟩ := hf
  have hshown : showsRelayChain e = false := by
    rw [← Bool.not_eq_true, showsRelayChain_iff]
    rintro (rfl | ⟨comment, rfl⟩)
    · exact hchain rfl
    · exact hrule comment rfl
  simp [shown?_cons, said?_eq_some_iff.2 ⟨hread, hsays⟩, hshown]

theorem SameButForeign.shown?_eq (h : SameButForeign objects objects') :
    shown? objects = shown? objects' := by
  induction h with
  | nil => rfl
  | kept o _ ih => rw [shown?_cons, shown?_cons, ih]
  | added foreign _ ih => rw [shown?_cons_of_foreign foreign, ih]
  | removed foreign _ ih => rw [shown?_cons_of_foreign foreign, ih]

/-! ### The listing -/

theorem Lists.relayComments?_of_showsChain (h : Lists text objects)
    (hw : ∀ o ∈ objects, WellFormed o) (hs : ShowsChain objects) :
    ∃ comments, relayComments? text = .ok (some comments) ∧ InOrder (RuleAt objects) comments := by
  obtain ⟨es, hes⟩ := exists_read hw
  refine ⟨es.filterMap relayComment?, ?_, inOrder_relayComments hw hes⟩
  rw [h.relayComments?_of_read hes, relayComments, if_pos ((any_showsRelayChain_iff hw hes).2 hs)]

theorem Lists.relayComments?_of_not_showsChain (h : Lists text objects)
    (hw : ∀ o ∈ objects, WellFormed o) (hs : ¬ ShowsChain objects) :
    relayComments? text = .ok none := by
  obtain ⟨es, hes⟩ := exists_read hw
  rw [← any_showsRelayChain_iff hw hes] at hs
  rw [h.relayComments?_of_read hes, relayComments, if_neg hs]

theorem RuleAt.showsChain {i : Nat} {comment : Option String} (h : RuleAt objects i comment) :
    ShowsChain objects := by
  obtain ⟨o, ho, hsays⟩ := h
  exact .inr ⟨o, List.mem_of_getElem? ho, comment, hsays⟩

/-- A programmer learns from a listing what its text says. -/
theorem applied_of_gives (hp : p.Gives text) :
    (Programmer.applied ScriptedProgram.ops p).1 =
      (relayComments? text).map Programmer.carriesOwned := by
  obtain ⟨found, ended, rfl⟩ := hp
  simp [Programmer.applied, ScriptedProgram.ops, ScriptedProgram.list, ScriptedProgram.checked,
    found, ended, Except.bind]

theorem Lists.applied_eq (h : Lists text objects) (hw : ∀ o ∈ objects, WellFormed o)
    (hp : p.Gives text) :
    ∃ applied, (Programmer.applied ScriptedProgram.ops p).1 = .ok applied ∧
      (applied = true ↔ ∃ i, RuleAt objects i (some "appsecgw-owned-object")) := by
  rw [applied_of_gives hp]
  by_cases hs : ShowsChain objects
  · obtain ⟨comments, hcomments, horder⟩ := h.relayComments?_of_showsChain hw hs
    refine ⟨Programmer.carriesOwned (some comments), by rw [hcomments]; rfl, ?_⟩
    rw [← horder.mem_iff]
    simp [Programmer.carriesOwned, Redirect.ownedComment]
  · refine ⟨false, by rw [h.relayComments?_of_not_showsChain hw hs]; rfl, ?_⟩
    simpa using fun i hi => hs (RuleAt.showsChain hi)

/-- The listing of well-formed objects names the comments of the relay's rules in their order, or no
chain where neither the chain nor a rule of it is listed; one of malformed objects is an error; and
what is foreign to the chain makes no difference. -/
theorem listed_rules (h : Lists text objects) :
    ((∀ o ∈ objects, WellFormed o) →
      (relayComments? text = .ok none ↔ ¬ ShowsChain objects) ∧
      (ShowsChain objects → ∃ comments, relayComments? text = .ok (some comments) ∧
        InOrder (RuleAt objects) comments) ∧
      ∀ p : ScriptedProgram, p.Gives text →
        ∃ applied, (Programmer.applied ScriptedProgram.ops p).1 = .ok applied ∧
          (applied = true ↔ ∃ i, RuleAt objects i (some "appsecgw-owned-object"))) ∧
    ((∃ o ∈ objects, ¬ WellFormed o) →
      relayComments? text = .error .json ∧
      ∀ p : ScriptedProgram, p.Gives text →
        (Programmer.applied ScriptedProgram.ops p).1 = .error .json) ∧
    ∀ text' objects', Lists text' objects' → SameButForeign objects objects' →
      relayComments? text' = relayComments? text ∧
      ∀ p p' : ScriptedProgram, p.Gives text → p'.Gives text' →
        (Programmer.applied ScriptedProgram.ops p').1 =
          (Programmer.applied ScriptedProgram.ops p).1 := by
  refine ⟨fun hw => ⟨?_, h.relayComments?_of_showsChain hw, fun p => h.applied_eq hw⟩,
    fun hbad => ?_, fun text' objects' h' hsame => ?_⟩
  · refine ⟨fun hnone hs => ?_, h.relayComments?_of_not_showsChain hw⟩
    obtain ⟨comments, hcomments, -⟩ := h.relayComments?_of_showsChain hw hs
    rw [hcomments] at hnone
    cases hnone
  · have herror := h.relayComments?_of_malformed hbad
    refine ⟨herror, fun p hp => ?_⟩
    rw [applied_of_gives hp, herror]
    rfl
  · have hsame : relayComments? text' = relayComments? text := by
      rw [h'.relayComments?_eq, h.relayComments?_eq, hsame.shown?_eq]
    refine ⟨hsame, fun p p' hp hp' => ?_⟩
    rw [applied_of_gives hp, applied_of_gives hp', hsame]

/-- A rule of a relay and one of another table, without their chains. -/
def twoRules : String :=
  "\x7b\"nftables\":[\x7b\"rule\":\x7b\"family\":\"inet\",\"table\":\"appsecgw\"," ++
  "\"chain\":\"prerouting\",\"comment\":\"appsecgw-owned-object\"\x7d\x7d," ++
  "\x7b\"rule\":\x7b\"family\":\"ip\",\"table\":\"nat\",\"chain\":\"prerouting\"\x7d\x7d]\x7d"

/-- An object whose members are texts. -/
def ofTexts (members : List (String × String)) : Json :=
  .object (members.map fun m => (some m.1, .string (some m.2)))

def twoRuleObjects : List (String × Json) :=
  [("rule", ofTexts [("family", "inet"), ("table", "appsecgw"), ("chain", "prerouting"),
      ("comment", "appsecgw-owned-object")]),
    ("rule", ofTexts [("family", "ip"), ("table", "nat"), ("chain", "prerouting")])]

theorem twoRules_listed :
    Lists twoRules twoRuleObjects ∧
      (∃ comments, relayComments? twoRules = .ok (some comments) ∧
        InOrder (RuleAt twoRuleObjects) comments) ∧
      (Programmer.applied ScriptedProgram.ops { ruleset := twoRules }).1 = .ok true := by
  have hparse : Json.parse twoRules =
      some (.object [(some "nftables", .array (twoRuleObjects.map entry))]) := by cbv
  have h : Lists twoRules twoRuleObjects := ⟨_, hparse, by simp, rfl⟩
  have hw : ∀ o ∈ twoRuleObjects, WellFormed o := by
    simp only [twoRuleObjects, List.mem_cons, List.not_mem_nil, or_false, forall_eq_or_imp,
      forall_eq]
    exact ⟨⟨rfl, .rule ⟨"inet", "appsecgw", "prerouting", some "appsecgw-owned-object"⟩,
        .rule rfl (.object rfl rfl rfl (.text _))⟩,
      ⟨rfl, .rule ⟨"ip", "nat", "prerouting", none⟩, .rule rfl (.object rfl rfl rfl .missing)⟩⟩
  have hrule : RuleAt twoRuleObjects 0 (some "appsecgw-owned-object") :=
    ⟨_, rfl, .rule rfl (.object rfl rfl rfl (.text _))⟩
  obtain ⟨-, hcomments, happlied⟩ := (listed_rules h).1 hw
  obtain ⟨applied, hanswer, howned⟩ := happlied { ruleset := twoRules } ⟨rfl, rfl, rfl⟩
  rw [howned.2 ⟨0, hrule⟩] at hanswer
  exact ⟨h, hcomments hrule.showsChain, hanswer⟩

end Listing

end WafControl
