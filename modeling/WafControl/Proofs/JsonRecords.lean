import WafControl.Json.Value
import WafControl.Proofs.Pointwise

/-!
# Records in documents

A record of which no key may repeat stands in a document as an object or as the list of its members
(`Json.Record`), and a member that is a text may be left out or null (`Json.TextIfAny`). The readers
accept exactly what is written so.
-/

namespace WafControl

namespace Json

/-- A member that may be left out or null stands for the text. -/
inductive TextIfAny : Option Json → Option String → Prop
  | missing : TextIfAny none none
  | null : TextIfAny (some null) none
  | text (s : String) : TextIfAny (some (string (some s))) (some s)

/-- A value is a record that has these values under its keys: an object in which all keys can be
read and each of these stands at most once, or the list of the values, in which missing ones at the
end are left out. -/
inductive Record (keys : List String) (values : List (Option Json)) : Json → Prop
  | object {members : List (Option String × Json)} (readable : ∀ m ∈ members, m.1.isSome = true)
      (once : List.Forall₂ (fun key value => valuesOf key members = value.toList) keys values) :
      Record keys values (.object members)
  | list {xs : List Json} {missing : Nat} (count : xs.length + missing = keys.length)
      (given : values = xs.map some ++ List.replicate missing none) :
      Record keys values (.array xs)

variable {j : Json} {keys : List String} {values : List (Option Json)}

theorem text?_eq_some_iff {s : String} : j.text? = some s ↔ j = .string (some s) := by
  cases j <;> simp [text?]

theorem optional?_text?_eq_some_iff {j : Option Json} {s : Option String} :
    optional? text? j = some s ↔ TextIfAny j s := by
  constructor
  · intro h
    match j, h with
    | none, h => cases h; exact .missing
    | some null, h => cases h; exact .null
    | some (string (some t)), h => cases h; exact .text t
  · rintro (_ | _ | s) <;> rfl

theorem once?_eq_some_iff {key : String} {members : List (Option String × Json)}
    {value : Option Json} :
    once? key members = some value ↔ valuesOf key members = value.toList := by
  unfold once?
  cases value with
  | none => split <;> simp_all
  | some j => split <;> simp_all

theorem positional?_eq_some_iff {count : Nat} {xs : List Json} :
    positional? count xs = some values ↔
      ∃ missing, xs.length + missing = count ∧
        values = xs.map some ++ List.replicate missing none := by
  unfold positional?
  constructor
  · intro h
    obtain ⟨hle, heq⟩ := Option.ite_none_right_eq_some.1 h
    exact ⟨count - xs.length, Nat.add_sub_cancel' hle, (Option.some.inj heq).symm⟩
  · rintro ⟨missing, rfl, rfl⟩
    rw [if_pos (Nat.le_add_right _ _), Nat.add_sub_cancel_left]

/-- A record is read exactly if it is one. -/
theorem record?_eq_some_iff : j.record? keys = some values ↔ Record keys values j := by
  constructor
  · intro h
    match j, h with
    | .object members, h =>
      obtain ⟨hreadable, hvalues⟩ := Option.ite_none_right_eq_some.1 h
      refine .object (List.all_eq_true.1 hreadable) ?_
      exact (mapM_eq_some_iff.1 hvalues).imp fun _ _ => once?_eq_some_iff.1
    | .array xs, h =>
      obtain ⟨missing, hcount, hgiven⟩ := positional?_eq_some_iff.1 h
      exact .list hcount hgiven
  · rintro (⟨hreadable, honce⟩ | ⟨hcount, hgiven⟩)
    · rw [record?, if_pos (List.all_eq_true.2 hreadable), mapM_eq_some_iff]
      exact honce.imp fun _ _ => once?_eq_some_iff.2
    · exact positional?_eq_some_iff.2 ⟨_, hcount, hgiven⟩

end Json

end WafControl
