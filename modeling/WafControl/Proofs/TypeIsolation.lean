import WafControl.Proofs.Dialogues

/-!
# Types of a shared stream

A stream without a type of its own serves all types, and counts their responses together. Each type
is sent there what a stream fixed to it sends, given the requests for it and the same snapshots:
only the nonces differ, which are consecutive on a stream of one type.

The two streams are followed side by side (`Mirrors`). The subscription of the type is the same on
both up to its nonce, so a request is stale on the one if it is stale on the other, as long as the
renaming takes nothing else to a nonce that was issued (`Renames`).
-/

namespace WafControl.Discovery

/-- What the subscriptions of a stream are given: a request with the snapshot that the node has
then, or a new snapshot. -/
inductive Input where
  | request (r : Request) (snapshot : Option Snapshot)
  | push (x : Snapshot)
  deriving DecidableEq, Repr

section Renaming

variable (ρ : String → String)

def Request.rename (r : Request) : Request := { r with nonce := ρ r.nonce }

def Response.rename (r : Response) : Response := { r with nonce := ρ r.nonce }

def Subscription.rename (sub : Subscription) : Subscription :=
  { sub with nonce := sub.nonce.map ρ }

/-- An input as a stream of one type gets it, unless it is a request for another type. -/
def Input.about? (t : ResourceType) : Input → Option Input
  | request r snapshot => if r.typeUrl = t.url then some (request (r.rename ρ) snapshot) else none
  | push x => some (push x)

end Renaming

def ofType (t : ResourceType) (rs : List Response) : List Response :=
  rs.filter fun r => decide (r.type = t)

/-- The nonces of as many responses, after `n` others. -/
def numbered (n count : Nat) : List String := (List.range' (n + 1) count).map toString

/-- A renaming of the nonces that were issued for a type to those of a stream of that type: in
order, with nothing else taken to one of them, and the empty nonce apart. -/
structure Renames (ρ : String → String) (issued : List String) : Prop where
  inOrder : issued.map ρ = numbered 0 issued.length
  unissued : ∀ n ∉ issued, ρ n ∉ numbered 0 issued.length
  empty_iff : ∀ n, ρ n = "" ↔ n = ""

/-! ### Nonces -/

theorem numbered_add (n a b : Nat) : numbered n (a + b) = numbered n a ++ numbered (n + a) b := by
  simp [numbered, Nat.add_right_comm, ← List.range'_append_1]

theorem nodup_numbered (n count : Nat) : (numbered n count).Nodup :=
  List.Nodup.map (fun _ _ => Subscriptions.nonce_inj) List.nodup_range'

theorem Renames.eq_of_eq {ρ : String → String} {issued : List String} (h : Renames ρ issued)
    {n x : String} (hn : n ∈ issued) (hx : ρ x = ρ n) : x = n := by
  by_cases hmem : x ∈ issued
  · refine List.inj_on_of_nodup_map ?_ hmem hn hx
    rw [h.inOrder]
    exact nodup_numbered 0 issued.length
  · -- an unissued nonce is not taken to where an issued one goes
    refine absurd ?_ (h.unissued x hmem)
    rw [hx, ← h.inOrder]
    exact List.mem_map_of_mem hn

/-- Nonces without repetition can be renamed. -/
theorem exists_renames {issued : List String} (hnodup : issued.Nodup) (hempty : "" ∉ issued) :
    ∃ ρ, Renames ρ issued := by
  refine ⟨fun n => if n ∈ issued then toString (issued.idxOf n + 1) else
    if n = "" then "" else toString 0, ?_, ?_, ?_⟩
  · refine List.ext_getElem (by simp [numbered]) fun i hi _ => ?_
    have hi' : i < issued.length := by simpa using hi
    simp [numbered, hnodup.idxOf_getElem i hi', Nat.add_comm]
  · intro n hn
    by_cases hne : n = ""
    · subst hne
      simp [numbered, hn]
    · -- nonces count from one
      simp only [hn, hne, if_false, numbered, List.mem_map, List.mem_range'_1]
      rintro ⟨k, hk, hnonce⟩
      have hzero := Subscriptions.nonce_inj hnonce
      omega
  · intro n
    by_cases hn : n ∈ issued
    · have hne : n ≠ "" := fun h => hempty (h ▸ hn)
      simp [hn, hne]
    · by_cases hne : n = ""
      · subst hne
        simp [hn]
      · simp [hn, hne]

theorem ResourceType.ofUrl?_eq_some_iff {url : String} {t : ResourceType} :
    ofUrl? url = some t ↔ url = t.url := by
  constructor
  · intro h
    have hurl := @List.find?_some _ (fun t : ResourceType => t.url == url) _ _ h
    exact (beq_iff_eq.1 hurl).symm
  · rintro rfl
    exact t.ofUrl?_url

namespace Subscriptions

variable (s : Subscriptions) (m : Counts) (fixed : Option ResourceType)

def take : Input → List Response × Subscriptions × Counts
  | .request r snapshot =>
    let (response, s, m) := s.handleRequest m fixed r snapshot
    (response.toList, s, m)
  | .push x => s.handleSnapshot m x

/-- Takes up one input after the other. -/
def serve (s : Subscriptions) (m : Counts) (fixed : Option ResourceType) :
    List Input → List Response × Subscriptions × Counts
  | [] => ([], s, m)
  | i :: is =>
    let (now, s, m) := s.take m fixed i
    let (later, s, m) := s.serve m fixed is
    (now ++ later, s, m)

/-! ### All responses are numbered -/

/-- The responses between two states are numbered from the first state on. -/
structure Numbers (s : Subscriptions) (rs : List Response) (s' : Subscriptions) : Prop where
  count : s'.nonces = s.nonces + rs.length
  nonces : rs.map Response.nonce = numbered s.nonces rs.length

namespace Numbers

variable {s s' s'' : Subscriptions} {rs rs' : List Response}

theorem nil (h : s'.nonces = s.nonces) : Numbers s [] s' := ⟨h, rfl⟩

theorem append (h : Numbers s rs s') (h' : Numbers s' rs' s'') : Numbers s (rs ++ rs') s'' where
  count := by rw [h'.count, h.count, List.length_append, Nat.add_assoc]
  nonces := by
    rw [List.map_append, h.nonces, h'.nonces, List.length_append, numbered_add, h.count]

theorem sent (s : Subscriptions) (t : ResourceType) (x : Snapshot) :
    Numbers s [s.response t x] (s.sent t x) := ⟨rfl, rfl⟩

end Numbers

theorem numbers_take (i : Input) :
    Numbers s (s.take m fixed i).1 (s.take m fixed i).2.1 := by
  cases i with
  | request r snapshot =>
      have h := s.handled_handleRequest m fixed r snapshot
      revert h
      simp only [take]
      generalize (s.handleRequest m fixed r snapshot).1 = response
      generalize (s.handleRequest m fixed r snapshot).2.1 = s'
      intro h
      cases h with
      | unknown | stale | rejected | unanswered => exact .nil rfl
      | answered => exact ⟨rfl, rfl⟩
  | push x =>
      refine @pushAll_induction x (Numbers s) _ ?_ m s (.nil rfl)
      intro rs s' t _ h
      exact h.append (.sent s' t x)

theorem numbers_serve (is : List Input) :
    Numbers s (s.serve m fixed is).1 (s.serve m fixed is).2.1 := by
  induction is generalizing s m with
  | nil => exact .nil rfl
  | cons i is ih => exact (s.numbers_take m fixed i).append (ih _ _)

/-! ### One type on its own -/

/-- What a push sends for a type that it does not push is nothing. -/
theorem pushAll_of_not_mem {t : ResourceType} (x : Snapshot) {ts : List ResourceType}
    (ht : t ∉ ts) : ofType t (s.pushAll m x ts).1 = [] ∧
      (s.pushAll m x ts).2.1.types.find? t = s.types.find? t := by
  refine @pushAll_induction x
    (fun rs s' => ofType t rs = [] ∧ s'.types.find? t = s.types.find? t) ts ?_ m s ⟨rfl, rfl⟩
  intro rs s' t' ht' h
  have hne : t ≠ t' := fun h => ht (h ▸ ht')
  constructor
  · rw [ofType, List.filter_append, ← ofType, h.1]
    simp [response, Ne.symm hne]
  · rw [sent, Table.find?_insert_of_ne _ hne, h.2]

theorem pushAll_append (x : Snapshot) (ts ts' : List ResourceType) :
    s.pushAll m x (ts ++ ts') =
      let (now, s, m) := s.pushAll m x ts
      let (later, s, m) := s.pushAll m x ts'
      (now ++ later, s, m) := by
  induction ts generalizing s m with
  | nil => rfl
  | cons t ts ih => simp only [List.cons_append, pushAll, ih]

/-- A type that is pushed once is sent one response, and the other types leave it as it is. -/
theorem pushAll_of_mem {t : ResourceType} (x : Snapshot) {ts : List ResourceType}
    (hnodup : ts.Nodup) (ht : t ∈ ts) :
    ∃ s₁ : Subscriptions, s₁.types.find? t = s.types.find? t ∧
      ofType t (s.pushAll m x ts).1 = [s₁.response t x] ∧
      (s.pushAll m x ts).2.1.types.find? t = (s₁.sent t x).types.find? t := by
  obtain ⟨before, after, rfl⟩ := List.append_of_mem ht
  obtain ⟨-, hcons, hdisjoint⟩ := List.nodup_append.1 hnodup
  have hbefore : t ∉ before := fun hin => hdisjoint t hin t List.mem_cons_self rfl
  have hafter : t ∉ after := (List.nodup_cons.1 hcons).1
  obtain ⟨hnow, hfind⟩ := s.pushAll_of_not_mem m x hbefore
  rw [pushAll_append]
  simp only [pushAll, respond_eq]
  generalize s.pushAll m x before = first at hnow hfind
  obtain ⟨now, s₁, m₁⟩ := first
  obtain ⟨hlater, hfind'⟩ := (s₁.sent t x).pushAll_of_not_mem (m₁.respond t) x hafter
  refine ⟨s₁, hfind, ?_, hfind'⟩
  rw [ofType, List.filter_append, ← ofType, hnow, List.nil_append,
    List.filter_cons_of_pos (by simp [response]), ← ofType, hlater]

/-- The answer to a request is of the type that the request is for. -/
theorem Handled.type_of_some {s s' : Subscriptions} {fixed : Option ResourceType} {r : Request}
    {snapshot : Option Snapshot} {a : Response} (h : s.Handled fixed r snapshot (some a) s') :
    typeOf? fixed r = some a.type := by
  cases h with
  | answered typed => exact typed

theorem ofType_handleRequest (t : ResourceType) (r : Request) (snapshot : Option Snapshot) :
    ofType t (s.handleRequest m none r snapshot).1.toList =
      if r.typeUrl = t.url then (s.handleRequest m none r snapshot).1.toList else [] := by
  have h := s.handled_handleRequest m none r snapshot
  generalize (s.handleRequest m none r snapshot).1 = response at h ⊢
  cases response with
  | none => simp [ofType]
  | some a =>
      have htype : a.type = t ↔ r.typeUrl = t.url := by
        rw [← ResourceType.ofUrl?_eq_some_iff, ← Option.some_inj, ← h.type_of_some]
        rfl
      by_cases ht : a.type = t
      · rw [if_pos (htype.1 ht)]
        simp [ofType, ht]
      · rw [if_neg fun hr => ht (htype.2 hr)]
        simp [ofType, ht]

/-- The second of two subscriptions holds the type alone, as the first holds it up to its nonce. -/
structure Mirrors (ρ : String → String) (t : ResourceType) (issued : List String)
    (s s' : Subscriptions) : Prop where
  same : s'.types.find? t = (s.types.find? t).map (Subscription.rename ρ)
  alone : ∀ t' ≠ t, s'.types.find? t' = none
  issued : ∀ n, (s.subscription t).nonce = some n → n ∈ issued

namespace Mirrors

variable {ρ : String → String} {t : ResourceType} {issued : List String} {s s' : Subscriptions}

theorem subscription (h : Mirrors ρ t issued s s') :
    s'.subscription t = (s.subscription t).rename ρ := by
  rw [Subscriptions.subscription, h.same, Subscriptions.subscription]
  cases s.types.find? t <;> rfl

theorem stale_eq (h : Mirrors ρ t issued s s') (hρ : Renames ρ issued) (r : Request) :
    stale (s'.subscription t) (r.rename ρ) = stale (s.subscription t) r := by
  have hsame : (s.subscription t).nonce.map ρ = some (ρ r.nonce) ↔
      (s.subscription t).nonce = some r.nonce := by
    constructor
    · intro heq
      obtain ⟨n, hn, hx⟩ := Option.map_eq_some_iff.1 heq
      rw [hn, hρ.eq_of_eq (h.issued n hn) hx.symm]
    · intro heq
      rw [heq, Option.map_some]
  rw [h.subscription, Bool.eq_iff_iff]
  simp [stale, Subscription.rename, Request.rename, hρ.empty_iff, hsame]

theorem acknowledges_eq (h : Mirrors ρ t issued s s') (hρ : Renames ρ issued) (r : Request)
    (version : String) : acknowledges (s'.subscription t) (r.rename ρ) version =
      acknowledges (s.subscription t) r version := by
  rw [h.subscription, Bool.eq_iff_iff]
  simp [acknowledges, Subscription.rename, Request.rename, hρ.empty_iff]

theorem of_find?_eq {s₁ : Subscriptions} (h : Mirrors ρ t issued s s')
    (hs : s₁.types.find? t = s.types.find? t) : Mirrors ρ t issued s₁ s' where
  same := hs ▸ h.same
  alone := h.alone
  issued := by
    rw [Subscriptions.subscription, hs]
    exact h.issued

theorem record (h : Mirrors ρ t issued s s') (names : List String) :
    Mirrors ρ t issued (s.record t names) (s'.record t names) where
  same := by
    rw [Subscriptions.record, Subscriptions.record, h.subscription]
    simp [Subscription.rename]
  alone := fun t' ht => by
    rw [Subscriptions.record, Table.find?_insert_of_ne _ ht]
    exact h.alone t' ht
  issued := by
    rw [nonce_record]
    exact h.issued

theorem response (h : Mirrors ρ t issued s s') (x : Snapshot)
    (hn : ρ (toString (s.nonces + 1)) = toString (s'.nonces + 1)) :
    s'.response t x = (s.response t x).rename ρ := by
  rw [Subscriptions.response, h.subscription, ← hn]
  rfl

theorem sent (h : Mirrors ρ t issued s s') (x : Snapshot)
    (hn : ρ (toString (s.nonces + 1)) = toString (s'.nonces + 1))
    (hi : toString (s.nonces + 1) ∈ issued) :
    Mirrors ρ t issued (s.sent t x) (s'.sent t x) where
  same := by
    rw [Subscriptions.sent, Subscriptions.sent, h.subscription, ← hn]
    simp [Subscription.rename]
  alone := fun t' ht => by
    rw [Subscriptions.sent, Table.find?_insert_of_ne _ ht]
    exact h.alone t' ht
  issued := by
    rw [subscription_sent]
    rintro n hn
    cases hn
    exact hi

/-- A request for the type has the same effect on both. -/
theorem handleTyped (h : Mirrors ρ t issued s s') (hρ : Renames ρ issued) (m m' : Counts)
    (r : Request) (snapshot : Option Snapshot)
    (hsent : ∀ a, (s.handleTyped m t r snapshot).1 = some a →
      a.nonce ∈ issued ∧ ρ a.nonce = toString (s'.nonces + 1)) :
    Mirrors ρ t issued (s.handleTyped m t r snapshot).2.1
        (s'.handleTyped m' t (r.rename ρ) snapshot).2.1 ∧
      (s'.handleTyped m' t (r.rename ρ) snapshot).1 =
        (s.handleTyped m t r snapshot).1.map (Response.rename ρ) := by
  have hnames : (s'.subscription t).names = (s.subscription t).names := by
    rw [h.subscription, Subscription.rename]
  revert hsent
  simp only [Subscriptions.handleTyped, h.stale_eq hρ, hnames]
  cases stale (s.subscription t) r with
  | true => exact fun _ => ⟨h.record _, rfl⟩
  | false =>
      have herror : (r.rename ρ).error = r.error := rfl
      simp only [herror]
      cases r.error.isSome with
      | true => exact fun _ => ⟨h.record _, rfl⟩
      | false =>
          cases snapshot with
          | none => exact fun _ => ⟨h.record _, rfl⟩
          | some x =>
              simp only [Bool.false_eq_true, if_false, h.acknowledges_eq hρ]
              cases acknowledges (s.subscription t) r x.version with
              | true => exact fun _ => ⟨h.record _, rfl⟩
              | false =>
                  simp only [Bool.false_eq_true, if_false, respond_record]
                  intro hsent
                  obtain ⟨hi, hn⟩ := hsent _ rfl
                  have hrec := h.record r.names
                  exact ⟨hrec.sent x hn hi, congrArg some (hrec.response x hn)⟩

theorem outdated_self (h : Mirrors ρ t issued s s') (version : String) :
    s'.outdated version t = s.outdated version t := by
  rw [outdated, outdated, h.same]
  cases s.types.find? t <;> rfl

theorem filter_outdated (h : Mirrors ρ t issued s s') (version : String) :
    ResourceType.pushOrder.filter (s'.outdated version) =
      if s.outdated version t then [t] else [] := by
  have honly : ∀ t' ∈ ResourceType.pushOrder,
      s'.outdated version t' = (decide (t' = t) && s.outdated version t) := by
    intro t' _
    by_cases ht : t' = t
    · subst ht
      simp [h.outdated_self]
    · simp [outdated, h.alone t' ht, ht]
  rw [List.filter_congr honly]
  cases s.outdated version t with
  | false => simp
  | true => cases t <;> rfl

theorem handleSnapshot (h : Mirrors ρ t issued s s') (m m' : Counts) (x : Snapshot)
    (hsent : ∀ a, (ofType t (s.handleSnapshot m x).1).head? = some a →
      a.nonce ∈ issued ∧ ρ a.nonce = toString (s'.nonces + 1)) :
    Mirrors ρ t issued (s.handleSnapshot m x).2.1 (s'.handleSnapshot m' x).2.1 ∧
      (s'.handleSnapshot m' x).1 =
        (ofType t (s.handleSnapshot m x).1).map (Response.rename ρ) := by
  have hnodup : (ResourceType.pushOrder.filter (s.outdated x.version)).Nodup :=
    List.Nodup.filter _ (by decide)
  have hmem : t ∈ ResourceType.pushOrder.filter (s.outdated x.version) ↔
      s.outdated x.version t = true := by
    rw [List.mem_filter, and_iff_right t.mem_pushOrder]
  simp only [Subscriptions.handleSnapshot, h.filter_outdated] at hsent ⊢
  cases hout : s.outdated x.version t with
  | false =>
      have ht : t ∉ ResourceType.pushOrder.filter (s.outdated x.version) := by
        rw [hmem, hout]
        decide
      obtain ⟨hnone, hfind⟩ := s.pushAll_of_not_mem m x ht
      rw [hnone]
      exact ⟨h.of_find?_eq hfind, rfl⟩
  | true =>
      obtain ⟨s₁, hfind, hone, hfind'⟩ := s.pushAll_of_mem m x hnodup (hmem.2 hout)
      rw [hone] at hsent ⊢
      obtain ⟨hi, hn⟩ := hsent _ rfl
      have h₁ := h.of_find?_eq hfind
      simp only [if_true, pushAll, respond_eq]
      exact ⟨(h₁.sent x hn hi).of_find?_eq hfind', congrArg (· :: []) (h₁.response x hn)⟩

/-- Each input is taken up on both, except that the second is not given what is for other types. -/
theorem take (h : Mirrors ρ t issued s s') (hρ : Renames ρ issued) (m m' : Counts) (i : Input)
    (hsent : ∀ a, (ofType t (s.take m none i).1).head? = some a →
      a.nonce ∈ issued ∧ ρ a.nonce = toString (s'.nonces + 1)) :
    Mirrors ρ t issued (s.take m none i).2.1
        (s'.serve m' (some t) (i.about? ρ t).toList).2.1 ∧
      (s'.serve m' (some t) (i.about? ρ t).toList).1 =
        (ofType t (s.take m none i).1).map (Response.rename ρ) := by
  cases i with
  | push x =>
      obtain ⟨hm, heq⟩ := h.handleSnapshot m m' x hsent
      exact ⟨hm, (List.append_nil _).trans heq⟩
  | request r snapshot =>
      have hnow := s.ofType_handleRequest m t r snapshot
      by_cases hr : r.typeUrl = t.url
      · have htype : typeOf? none r = some t := ResourceType.ofUrl?_eq_some_iff.2 hr
        have htyped : s.handleRequest m none r snapshot = s.handleTyped m t r snapshot := by
          rw [handleRequest, htype]
        rw [if_pos hr, htyped] at hnow
        rw [Subscriptions.take, htyped] at hsent ⊢
        obtain ⟨hm, heq⟩ := h.handleTyped hρ m m' r snapshot fun a ha =>
          hsent a (by rw [hnow, ha]; rfl)
        rw [Input.about?, if_pos hr, hnow, ← Option.toList_map, ← heq]
        exact ⟨hm, List.append_nil _⟩
      · rw [if_neg hr] at hnow
        have hother : typeOf? none r ≠ some t := fun ht =>
          hr (ResourceType.ofUrl?_eq_some_iff.1 ht)
        rw [Subscriptions.take, Input.about?, if_neg hr, hnow]
        exact ⟨h.of_find?_eq ((s.handled_handleRequest m none r snapshot).find?_of_ne hother), rfl⟩

end Mirrors

theorem serve_append (is is' : List Input) :
    s.serve m fixed (is ++ is') =
      let (now, s, m) := s.serve m fixed is
      let (later, s, m) := s.serve m fixed is'
      (now ++ later, s, m) := by
  induction is generalizing s m with
  | nil => rfl
  | cons i is ih => simp only [List.cons_append, serve, ih, List.append_assoc]

/-- A run is followed on both sides as long as the renaming numbers the responses of the type. -/
theorem Mirrors.serve {ρ : String → String} {t : ResourceType} {issued : List String}
    {s s' : Subscriptions} (h : Mirrors ρ t issued s s') (hρ : Renames ρ issued) (m m' : Counts)
    (is : List Input)
    (hi : ∀ a ∈ ofType t (s.serve m none is).1, a.nonce ∈ issued)
    (hn : (ofType t (s.serve m none is).1).map (fun a => ρ a.nonce) =
      numbered s'.nonces (ofType t (s.serve m none is).1).length) :
    (s'.serve m' (some t) (is.filterMap (Input.about? ρ t))).1 =
      (ofType t (s.serve m none is).1).map (Response.rename ρ) := by
  induction is generalizing s s' m m' with
  | nil => rfl
  | cons i is ih =>
      have hsplit : ofType t (s.serve m none (i :: is)).1 = ofType t (s.take m none i).1 ++
          ofType t ((s.take m none i).2.1.serve (s.take m none i).2.2 none is).1 :=
        List.filter_append _ _
      rw [hsplit] at hi hn ⊢
      rw [List.map_append, List.length_append, numbered_add] at hn
      obtain ⟨hnow, hlater⟩ := List.append_inj hn (by simp [numbered])
      obtain ⟨hm, heq⟩ := h.take hρ m m' i fun a ha => by
        obtain ⟨rest, hrest⟩ := List.head?_eq_some_iff.1 ha
        rw [hrest] at hnow hi
        exact ⟨hi a List.mem_cons_self, (List.cons.inj hnow).1⟩
      have hcount := (s'.numbers_serve m' (some t) (i.about? ρ t).toList).count
      rw [heq, List.length_map] at hcount
      have hfilter : (i :: is).filterMap (Input.about? ρ t) =
          (i.about? ρ t).toList ++ is.filterMap (Input.about? ρ t) := by
        rw [List.filterMap_cons]
        cases i.about? ρ t <;> rfl
      rw [hfilter, serve_append, List.map_append, ← heq]
      refine congrArg (_ ++ ·) (ih hm _ _ (fun a ha => hi a (List.mem_append_right _ ha)) ?_)
      rw [hcount]
      exact hlater

/-! ### The types are isolated -/

/-- The responses of a type on a stream that serves all types. -/
def sentOf (t : ResourceType) (m : Counts) (is : List Input) : List Response :=
  ofType t (({} : Subscriptions).serve m none is).1

def issuedOf (t : ResourceType) (m : Counts) (is : List Input) : List String :=
  (sentOf t m is).map Response.nonce

theorem issuedOf_increasing (t : ResourceType) (m : Counts) (is : List Input) :
    ∃ ks : List Nat, ks.Pairwise (· < ·) ∧ 0 ∉ ks ∧ issuedOf t m is = ks.map toString := by
  have hsub : (issuedOf t m is).Sublist
      (numbered 0 (({} : Subscriptions).serve m none is).1.length) := by
    rw [← (numbers_serve {} m none is).nonces]
    exact List.filter_sublist.map _
  obtain ⟨ks, hks, heq⟩ := List.sublist_map_iff.1 hsub
  refine ⟨ks, (List.pairwise_lt_range').sublist hks, fun hzero => ?_, heq⟩
  have hone := (List.mem_range'_1.1 (hks.subset hzero)).1
  omega

theorem exists_renames_issuedOf (t : ResourceType) (m : Counts) (is : List Input) :
    ∃ ρ, Renames ρ (issuedOf t m is) := by
  obtain ⟨ks, hlt, -, heq⟩ := issuedOf_increasing t m is
  rw [heq]
  apply exists_renames
  · exact List.Nodup.map (fun _ _ => nonce_inj) (hlt.imp Nat.ne_of_lt)
  · -- no nonce is empty
    simp

theorem serve_fixed (t : ResourceType) (m m' : Counts) (is : List Input) {ρ : String → String}
    (hρ : Renames ρ (issuedOf t m is)) :
    (({} : Subscriptions).serve m' (some t) (is.filterMap (Input.about? ρ t))).1 =
      (sentOf t m is).map (Response.rename ρ) := by
  have hempty : Mirrors ρ t (issuedOf t m is) {} {} := ⟨rfl, fun _ _ => rfl, nofun⟩
  apply hempty.serve hρ m m' is
  · exact fun a ha => List.mem_map_of_mem ha
  · have h := hρ.inOrder
    rwa [issuedOf, List.map_map, List.length_map] at h

/-- What a shared stream sends for a type is what a stream of that type sends, up to the nonces,
which are renamed in order. So streams that are given the same for a type send the same for it,
whatever else they are given. -/
theorem types_isolated (t : ResourceType) (m m' : Counts) (is : List Input) :
    (∃ ks : List Nat, ks.Pairwise (· < ·) ∧ 0 ∉ ks ∧ issuedOf t m is = ks.map toString) ∧
      (∃ ρ, Renames ρ (issuedOf t m is)) ∧
      (∀ ρ, Renames ρ (issuedOf t m is) →
        (({} : Subscriptions).serve m' (some t) (is.filterMap (Input.about? ρ t))).1 =
          (sentOf t m is).map (Response.rename ρ)) ∧
      ∀ ρ, Renames ρ (issuedOf t m is) → ∀ is' ρ', Renames ρ' (issuedOf t m' is') →
        is'.filterMap (Input.about? ρ' t) = is.filterMap (Input.about? ρ t) →
          (sentOf t m' is').map (Response.rename ρ') = (sentOf t m is).map (Response.rename ρ) := by
  refine ⟨issuedOf_increasing t m is, exists_renames_issuedOf t m is,
    fun ρ hρ => serve_fixed t m m' is hρ, ?_⟩
  intro ρ hρ is' ρ' hρ' hsame
  rw [← serve_fixed t m' m' is' hρ', hsame, serve_fixed t m m' is hρ]

/-- Routes are asked for after clusters. An old cluster response is answered, and the last route
response with another name. -/
def sharedInputs : List Input :=
  let v1 := Transcript.routedSnapshot "v1" ["shop"]
  let v2 := Transcript.routedSnapshot "v2" ["shop", "blog"]
  [.request { typeUrl := ResourceType.cluster.url } (some v1),
    .request { typeUrl := ResourceType.route.url } (some v1),
    .push v2,
    .request { typeUrl := ResourceType.cluster.url, nonce := "1" } (some v2),
    .request { typeUrl := ResourceType.route.url, nonce := "4", names := ["blog"] } (some v2)]

/-- The routes of these were sent with the nonces 2, 4 and 5. -/
def routeNonce (n : String) : String :=
  if n = "2" then "1" else if n = "4" then "2" else if n = "5" then "3" else
    if n = "" then "" else "0"

/-- The same without the clusters. -/
def routeInputs : List Input := sharedInputs.filterMap (Input.about? routeNonce .route)

theorem renames_routeNonce : Renames routeNonce ["2", "4", "5"] := by
  refine ⟨by decide +kernel, fun n hn => ?_, fun n => ?_⟩
  · simp only [List.mem_cons, List.not_mem_nil, or_false, not_or] at hn
    simp only [routeNonce, hn, if_false]
    split <;> decide +kernel
  · unfold routeNonce
    split_ifs with h2 h4 h5 h <;> simp [*]

theorem renames_id (count : Nat) : Renames id (numbered 0 count) := by
  refine ⟨?_, ?_, fun n => Iff.rfl⟩
  · simp [numbered]
  · simp [numbered]

theorem shared_routes_isolated :
    issuedOf .route {} sharedInputs = ["2", "4", "5"] ∧
      (({} : Subscriptions).serve {} (some .route) routeInputs).1 =
        (sentOf .route {} sharedInputs).map (Response.rename routeNonce) ∧
      (sentOf .route {} routeInputs).map (Response.rename id) =
        (sentOf .route {} sharedInputs).map (Response.rename routeNonce) := by
  have hissued : issuedOf .route {} sharedInputs = ["2", "4", "5"] := by decide +kernel
  have hissued' : issuedOf .route {} routeInputs = numbered 0 3 := by decide +kernel
  have hρ : Renames routeNonce (issuedOf .route {} sharedInputs) := hissued ▸ renames_routeNonce
  have hρ' : Renames id (issuedOf .route {} routeInputs) := hissued' ▸ renames_id 3
  obtain ⟨-, -, halone, halike⟩ := types_isolated .route {} {} sharedInputs
  exact ⟨hissued, halone routeNonce hρ, halike routeNonce hρ routeInputs id hρ' (by decide +kernel)⟩

end Subscriptions

end WafControl.Discovery
