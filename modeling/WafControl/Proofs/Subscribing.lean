import WafControl.Discovery.Subscriptions

/-!
# What requests and snapshots do to subscriptions

Handling a request records names and may send one response (`Handled`); a snapshot is pushed by
sending one response after the other, each with the names recorded for its type
(`pushAll_induction`). Only these two operations change a subscription, and neither touches that of
another type.
-/

namespace WafControl.Discovery

namespace Subscriptions

variable (s : Subscriptions) {t t' : ResourceType}

/-- The response that sends a type with the names recorded for it. -/
def response (t : ResourceType) (x : Snapshot) : Response where
  version := x.version
  type := t
  nonce := toString (s.nonces + 1)
  resources := served x.resources t (s.subscription t).names

/-- The subscriptions once that response is sent. -/
def sent (t : ResourceType) (x : Snapshot) : Subscriptions where
  types := s.types.insert t { s.subscription t with
    nonce := some (toString (s.nonces + 1))
    sentVersion := some x.version }
  nonces := s.nonces + 1

/-- No two responses have the same nonce. -/
theorem nonce_inj {m n : Nat} (h : toString m = toString n) : m = n := by
  simp only [Nat.toString_eq_repr, Nat.repr_eq_ofList_toDigits, String.ofList_inj] at h
  rw [← @Nat.ofDigitChars_toDigits 10 m (by decide) (by decide), h,
    Nat.ofDigitChars_toDigits (by decide) (by decide)]

theorem subscription_of_none (h : s.types.find? t = none) : s.subscription t = {} := by
  rw [subscription, h, Option.getD_none]

@[simp] theorem subscription_record (t : ResourceType) (names : List String) :
    (s.record t names).subscription t = { s.subscription t with names } := by
  simp [subscription, record]

theorem subscription_record_of_ne (h : t' ≠ t) (names : List String) :
    (s.record t names).subscription t' = s.subscription t' := by
  simp [subscription, record, Table.find?_insert_of_ne _ h]

@[simp] theorem nonce_record (t t' : ResourceType) (names : List String) :
    ((s.record t names).subscription t').nonce = (s.subscription t').nonce := by
  by_cases h : t' = t
  · subst h
    rw [subscription_record]
  · rw [subscription_record_of_ne s h]

@[simp] theorem sentVersion_record (t t' : ResourceType) (names : List String) :
    ((s.record t names).subscription t').sentVersion = (s.subscription t').sentVersion := by
  by_cases h : t' = t
  · subst h
    rw [subscription_record]
  · rw [subscription_record_of_ne s h]

theorem find?_record_ne_none_iff (t : ResourceType) (names : List String) :
    (s.record t names).types.find? t' ≠ none ↔ t' = t ∨ s.types.find? t' ≠ none := by
  by_cases h : t' = t
  · simp [record, h]
  · simp [record, h, Table.find?_insert_of_ne _ h]

@[simp] theorem subscription_sent (t : ResourceType) (x : Snapshot) :
    (s.sent t x).subscription t = { s.subscription t with
      nonce := some (toString (s.nonces + 1))
      sentVersion := some x.version } := by
  simp [subscription, sent]

theorem subscription_sent_of_ne (h : t' ≠ t) (x : Snapshot) :
    (s.sent t x).subscription t' = s.subscription t' := by
  simp [subscription, sent, Table.find?_insert_of_ne _ h]

theorem find?_sent_ne_none_iff (t : ResourceType) (x : Snapshot) :
    (s.sent t x).types.find? t' ≠ none ↔ t' = t ∨ s.types.find? t' ≠ none := by
  by_cases h : t' = t
  · simp [sent, h]
  · simp [sent, h, Table.find?_insert_of_ne _ h]

theorem respond_eq (m : Counts) (t : ResourceType) (x : Snapshot) :
    s.respond m t (s.subscription t).names x = (s.response t x, s.sent t x, m.respond t) := rfl

theorem respond_record (m : Counts) (t : ResourceType) (names : List String) (x : Snapshot) :
    (s.record t names).respond m t names x =
      ((s.record t names).response t x, (s.record t names).sent t x, m.respond t) := by
  have h := (s.record t names).respond_eq m t x
  rwa [subscription_record] at h

/-! ### Requests -/

/-- What handling a request comes to: the response that is sent, if there is one, and the
subscriptions then. -/
inductive Handled (fixed : Option ResourceType) (r : Request) (snapshot : Option Snapshot) :
    Option Response → Subscriptions → Prop
  | unknown (untyped : typeOf? fixed r = none) : Handled fixed r snapshot none s
  | stale {t : ResourceType} (typed : typeOf? fixed r = some t)
      (old : stale (s.subscription t) r = true) :
      Handled fixed r snapshot none (s.record t (s.subscription t).names)
  | rejected {t : ResourceType} (typed : typeOf? fixed r = some t)
      (fresh : stale (s.subscription t) r = false) (rejects : r.error.isSome = true) :
      Handled fixed r snapshot none (s.record t r.names)
  | unanswered {t : ResourceType} (typed : typeOf? fixed r = some t)
      (fresh : stale (s.subscription t) r = false) (accepts : r.error.isSome = false)
      (current : ∀ x, snapshot = some x → acknowledges (s.subscription t) r x.version = true) :
      Handled fixed r snapshot none (s.record t r.names)
  | answered {t : ResourceType} {x : Snapshot} (typed : typeOf? fixed r = some t)
      (fresh : stale (s.subscription t) r = false) (accepts : r.error.isSome = false)
      (published : snapshot = some x)
      (behind : acknowledges (s.subscription t) r x.version = false) :
      Handled fixed r snapshot (some ((s.record t r.names).response t x))
        ((s.record t r.names).sent t x)

theorem handled_handleRequest (m : Counts) (fixed : Option ResourceType) (r : Request)
    (snapshot : Option Snapshot) :
    s.Handled fixed r snapshot (s.handleRequest m fixed r snapshot).1
      (s.handleRequest m fixed r snapshot).2.1 := by
  unfold handleRequest
  cases ht : typeOf? fixed r with
  | none => exact .unknown ht
  | some t =>
      simp only [handleTyped]
      cases hstale : Subscriptions.stale (s.subscription t) r with
      | true => exact .stale ht hstale
      | false =>
          cases herror : r.error.isSome with
          | true => exact .rejected ht hstale herror
          | false =>
              cases snapshot with
              | none => exact .unanswered ht hstale herror fun x hx => by cases hx
              | some x =>
                  simp only [Bool.false_eq_true, if_false]
                  cases hack : acknowledges (s.subscription t) r x.version with
                  | true =>
                      refine .unanswered ht hstale herror fun x' hx => ?_
                      cases hx
                      exact hack
                  | false =>
                      rw [respond_record]
                      exact .answered ht hstale herror rfl hack

/-- What a request for a type comes to. -/
inductive Verdict where
  | stale
  | rejected
  | recorded
  | answered (x : Snapshot)
  deriving DecidableEq, Repr

def verdict (sub : Subscription) (r : Request) (snapshot : Option Snapshot) : Verdict :=
  if stale sub r then .stale
  else if r.error.isSome then .rejected
  else
    match snapshot with
    | none => .recorded
    | some x => if acknowledges sub r x.version then .recorded else .answered x

/-- Of what a stream holds, the verdict depends on the subscription of the type alone. -/
theorem handleTyped_eq (m : Counts) (t : ResourceType) (r : Request)
    (snapshot : Option Snapshot) :
    s.handleTyped m t r snapshot =
      match verdict (s.subscription t) r snapshot with
      | .stale => (none, s.record t (s.subscription t).names, m)
      | .rejected => (none, s.record t r.names, m.reject t)
      | .recorded => (none, s.record t r.names, m)
      | .answered x =>
        (some ((s.record t r.names).response t x), (s.record t r.names).sent t x, m.respond t) := by
  simp only [handleTyped, verdict]
  cases Subscriptions.stale (s.subscription t) r with
  | true => rfl
  | false =>
      cases r.error.isSome with
      | true => rfl
      | false =>
          cases snapshot with
          | none => rfl
          | some x =>
              dsimp only
              cases acknowledges (s.subscription t) r x.version with
              | true => rfl
              | false => simp [respond_record]

theorem Handled.find?_of_ne {s s' : Subscriptions} {fixed : Option ResourceType} {r : Request}
    {snapshot : Option Snapshot} {response : Option Response}
    (h : s.Handled fixed r snapshot response s') (ht : typeOf? fixed r ≠ some t) :
    s'.types.find? t = s.types.find? t := by
  have hne : ∀ t', typeOf? fixed r = some t' → t ≠ t' := by
    rintro t' typed rfl
    exact ht typed
  cases h with
  | unknown untyped => rfl
  | stale typed old => rw [record, Table.find?_insert_of_ne _ (hne _ typed)]
  | rejected typed fresh rejects => rw [record, Table.find?_insert_of_ne _ (hne _ typed)]
  | unanswered typed fresh accepts current =>
      rw [record, Table.find?_insert_of_ne _ (hne _ typed)]
  | answered typed fresh accepts published behind =>
      rw [sent, Table.find?_insert_of_ne _ (hne _ typed), record,
        Table.find?_insert_of_ne _ (hne _ typed)]

/-- A stream lists the types that were requested, whatever became of the requests. -/
theorem Handled.find?_ne_none_iff {s s' : Subscriptions} {fixed : Option ResourceType}
    {r : Request} {snapshot : Option Snapshot} {response : Option Response}
    (h : s.Handled fixed r snapshot response s') :
    s'.types.find? t ≠ none ↔ typeOf? fixed r = some t ∨ s.types.find? t ≠ none := by
  cases h with
  | unknown untyped => simp [untyped]
  | stale typed old => rw [find?_record_ne_none_iff, typed, Option.some_inj, eq_comm]
  | rejected typed fresh rejects => rw [find?_record_ne_none_iff, typed, Option.some_inj, eq_comm]
  | unanswered typed fresh accepts current =>
      rw [find?_record_ne_none_iff, typed, Option.some_inj, eq_comm]
  | answered typed fresh accepts published behind =>
      rw [find?_sent_ne_none_iff, find?_record_ne_none_iff, ← or_assoc, or_self, typed,
        Option.some_inj, eq_comm]

/-! ### Snapshots -/

/-- What holds before a push, and after each of its responses, holds after the push. -/
theorem pushAll_induction (x : Snapshot) {I : List Response → Subscriptions → Prop}
    (ts : List ResourceType)
    (hsend : ∀ rs s, ∀ t ∈ ts, I rs s → I (rs ++ [s.response t x]) (s.sent t x))
    (m : Counts) {s : Subscriptions} (h : I [] s) :
    I (s.pushAll m x ts).1 (s.pushAll m x ts).2.1 := by
  induction ts generalizing s m I with
  | nil => exact h
  | cons t ts ih =>
      -- the rest is pushed after the first response
      refine @ih (fun rs s' => I (s.response t x :: rs) s') ?_ (m.respond t) (s.sent t x) ?_
      · intro rs s' t' ht'
        exact hsend (s.response t x :: rs) s' t' (List.mem_cons_of_mem t ht')
      · exact hsend [] s t List.mem_cons_self h

theorem version_of_mem_pushAll (m : Counts) (x : Snapshot) (ts : List ResourceType) :
    ∀ a ∈ (s.pushAll m x ts).1, a.version = x.version := by
  refine @pushAll_induction x (fun rs _ => ∀ a ∈ rs, a.version = x.version) ts ?_ m s nofun
  intro rs s t _ hrs
  exact List.forall_mem_append.2 ⟨hrs, List.forall_mem_singleton.2 rfl⟩

theorem sentVersion_pushAll (x : Snapshot) (ts : List ResourceType) (m : Counts)
    (t : ResourceType) :
    ((s.pushAll m x ts).2.1.subscription t).sentVersion =
      if t ∈ ts then some x.version else (s.subscription t).sentVersion := by
  induction ts generalizing s m with
  | nil => simp [pushAll]
  | cons t' ts ih =>
      rw [show (s.pushAll m x (t' :: ts)).2.1 = ((s.sent t' x).pushAll (m.respond t') x ts).2.1
        from rfl, ih]
      by_cases ht : t = t'
      · subst ht
        simp
      · simp [ht, s.subscription_sent_of_ne ht]

theorem outdated_eq_true_iff {version : String} : s.outdated version t = true ↔
    s.types.find? t ≠ none ∧ (s.subscription t).sentVersion ≠ some version := by
  cases h : s.types.find? t <;> simp [outdated, subscription, h]

/-- A push sends each type once, in order. -/
theorem map_type_pushAll (m : Counts) (x : Snapshot) (ts : List ResourceType) :
    (s.pushAll m x ts).1.map Response.type = ts := by
  induction ts generalizing s m with
  | nil => rfl
  | cons t ts ih => exact congrArg (t :: ·) (ih (s.sent t x) (m.respond t))

theorem map_type_handleSnapshot (m : Counts) (x : Snapshot) :
    (s.handleSnapshot m x).1.map Response.type =
      ResourceType.pushOrder.filter (s.outdated x.version) :=
  s.map_type_pushAll m x _

/-- A push lists no type that was not listed. -/
theorem find?_handleSnapshot_ne_none_iff (m : Counts) (x : Snapshot) :
    (s.handleSnapshot m x).2.1.types.find? t ≠ none ↔ s.types.find? t ≠ none := by
  refine @pushAll_induction x
    (fun _ s' => s'.types.find? t ≠ none ↔ s.types.find? t ≠ none) _ ?_ m s Iff.rfl
  intro _ s' t' ht' hs
  have hlisted := (s.outdated_eq_true_iff.1 (List.mem_filter.1 ht').2).1
  rw [find?_sent_ne_none_iff, hs, or_iff_right_iff_imp]
  rintro rfl
  exact hlisted

theorem sentVersion_of_outdated_eq_false {version : String} (h : s.outdated version t = false)
    (hk : s.types.find? t ≠ none) : (s.subscription t).sentVersion = some version := by
  obtain ⟨sub, hsub⟩ := Option.ne_none_iff_exists'.1 hk
  simpa [outdated, subscription, hsub] using h

end Subscriptions

end WafControl.Discovery
