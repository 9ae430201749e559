/-!
# Finite tables

A `Table κ α` is a finite map that lists its keys in the order in which they were first put.
Putting a key again replaces its value in place, so the order of the keys is the order of their
arrival. The view is `find?`; the lemmas below say what each operation does to it, and nothing
else has to be known about the list inside.
-/

namespace WafControl

/-- A finite map whose keys keep their order of arrival. -/
structure Table (κ α : Type) where
  entries : List (κ × α) := []
  deriving Repr, DecidableEq

namespace Table

variable {κ α : Type}

instance : Inhabited (Table κ α) := ⟨{}⟩

def empty : Table κ α := {}

def keys (t : Table κ α) : List κ := t.entries.map Prod.fst

def values (t : Table κ α) : List α := t.entries.map Prod.snd

/-- Keeps the entries whose key satisfies `p`. -/
def filterKeys (p : κ → Bool) (t : Table κ α) : Table κ α :=
  ⟨t.entries.filter fun e => p e.1⟩

variable [DecidableEq κ]

/-- The value of `k` in a list of entries: that of the first entry for `k`. -/
def lookup (k : κ) : List (κ × α) → Option α
  | [] => none
  | (k', a) :: es => if k' = k then some a else lookup k es

def find? (t : Table κ α) (k : κ) : Option α := lookup k t.entries

def contains (t : Table κ α) (k : κ) : Bool := (t.find? k).isSome

/-- Replaces the first entry for `k`, or adds one at the end. -/
def put (k : κ) (a : α) : List (κ × α) → List (κ × α)
  | [] => [(k, a)]
  | (k', a') :: es => if k' = k then (k', a) :: es else (k', a') :: put k a es

/-- The table in which `k` has the value `a`. -/
def insert (t : Table κ α) (k : κ) (a : α) : Table κ α := ⟨put k a t.entries⟩

def erase (t : Table κ α) (k : κ) : Table κ α :=
  ⟨t.entries.filter fun e => decide (e.1 ≠ k)⟩

/-- Changes the value of `k`, taking `d` for a key that has none yet. -/
def modify (t : Table κ α) (k : κ) (d : α) (f : α → α) : Table κ α :=
  t.insert k (f ((t.find? k).getD d))

/-- Puts the entries of a list one after the other. -/
def insertAll (t : Table κ α) (es : List (κ × α)) : Table κ α :=
  es.foldl (fun t e => t.insert e.1 e.2) t

def ofList (es : List (κ × α)) : Table κ α := insertAll {} es

@[simp] theorem find?_empty (k : κ) : (empty : Table κ α).find? k = none := rfl

theorem lookup_put_self (k : κ) (a : α) (es : List (κ × α)) :
    lookup k (put k a es) = some a := by
  induction es with
  | nil => simp [put, lookup]
  | cons e es ih =>
      obtain ⟨k', a'⟩ := e
      by_cases h : k' = k <;> simp [put, lookup, h, ih]

theorem lookup_put_of_ne {k k' : κ} (h : k' ≠ k) (a : α) (es : List (κ × α)) :
    lookup k' (put k a es) = lookup k' es := by
  induction es with
  | nil => simp [put, lookup, h.symm]
  | cons e es ih =>
      obtain ⟨k₀, a₀⟩ := e
      by_cases h₀ : k₀ = k
      · subst h₀
        simp [put, lookup, h.symm]
      · by_cases h₁ : k₀ = k'
        · subst h₁
          simp [put, lookup, h₀]
        · simp [put, lookup, h₀, h₁, ih]

@[simp] theorem find?_insert_self (t : Table κ α) (k : κ) (a : α) :
    (t.insert k a).find? k = some a :=
  lookup_put_self k a t.entries

theorem find?_insert_of_ne (t : Table κ α) {k k' : κ} (h : k' ≠ k) (a : α) :
    (t.insert k a).find? k' = t.find? k' :=
  lookup_put_of_ne h a t.entries

theorem put_put (k : κ) (a b : α) (es : List (κ × α)) : put k b (put k a es) = put k b es := by
  induction es with
  | nil => simp [put]
  | cons e es ih =>
      obtain ⟨k', a'⟩ := e
      by_cases h : k' = k <;> simp [put, h, ih]

theorem put_of_lookup {k : κ} {a : α} {es : List (κ × α)} (h : lookup k es = some a) :
    put k a es = es := by
  induction es with
  | nil => cases h
  | cons e es ih =>
      obtain ⟨k', a'⟩ := e
      rw [lookup] at h
      split at h
      · cases h
        rw [put, if_pos ‹_›]
      · rw [put, if_neg ‹_›, ih h]

@[simp] theorem insert_insert (t : Table κ α) (k : κ) (a b : α) :
    (t.insert k a).insert k b = t.insert k b :=
  congrArg mk (put_put k a b t.entries)

/-- To put what is there changes nothing. -/
theorem insert_of_find? {t : Table κ α} {k : κ} {a : α} (h : t.find? k = some a) :
    t.insert k a = t :=
  congrArg mk (put_of_lookup h)

theorem lookup_filter (k : κ) (p : κ → Bool) (es : List (κ × α)) :
    lookup k (es.filter fun e => p e.1) = if p k then lookup k es else none := by
  induction es with
  | nil => simp [lookup]
  | cons e es ih =>
      obtain ⟨k', a⟩ := e
      by_cases hk : k' = k
      · subst hk
        by_cases hp : p k' <;> simp [hp, lookup, ih]
      · by_cases hp : p k' <;> simp [hp, lookup, hk, ih]

theorem find?_filterKeys (t : Table κ α) (p : κ → Bool) (k : κ) :
    (t.filterKeys p).find? k = if p k then t.find? k else none :=
  lookup_filter k p t.entries

@[simp] theorem find?_erase_self (t : Table κ α) (k : κ) : (t.erase k).find? k = none :=
  (lookup_filter k (fun x => decide (x ≠ k)) t.entries).trans (by simp)

theorem find?_erase_of_ne (t : Table κ α) {k k' : κ} (h : k' ≠ k) :
    (t.erase k).find? k' = t.find? k' :=
  (lookup_filter k' (fun x => decide (x ≠ k)) t.entries).trans (by simp [h, find?])

theorem filter_put (k : κ) (a : α) (es : List (κ × α)) :
    ((put k a es).filter fun e => decide (e.1 ≠ k)) = es.filter fun e => decide (e.1 ≠ k) := by
  induction es with
  | nil => simp [put]
  | cons e es ih =>
      obtain ⟨k', a'⟩ := e
      by_cases h : k' = k <;> simp_all [put]

/-- A value that is put and taken away again leaves what was there without its key. -/
@[simp] theorem erase_insert (t : Table κ α) (k : κ) (a : α) :
    (t.insert k a).erase k = t.erase k :=
  congrArg mk (filter_put k a t.entries)

theorem filter_of_lookup_eq_none {k : κ} {es : List (κ × α)} (h : lookup k es = none) :
    (es.filter fun e => decide (e.1 ≠ k)) = es := by
  induction es with
  | nil => rfl
  | cons e es ih =>
      obtain ⟨k', a⟩ := e
      rw [lookup] at h
      split at h
      · cases h
      · rw [List.filter_cons_of_pos (by simpa using ‹_›), ih h]

theorem erase_eq_self_iff (t : Table κ α) (k : κ) : t.erase k = t ↔ t.find? k = none := by
  refine ⟨fun h => ?_, fun h => congrArg mk (filter_of_lookup_eq_none h)⟩
  rw [← h]
  exact find?_erase_self t k

end Table

end WafControl
