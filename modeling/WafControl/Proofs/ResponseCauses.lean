import WafControl.Proofs.TypeIsolation

/-!
# Why responses are sent

A journal lists what a stream takes up and what it sends, in order. Two responses of a type that
follow each other with the same version are separated by a request that either answered no response
or asked for other names (`renewed_between`): a push does not repeat the version that a type was
last sent, and an acceptance that asks for the same names is not answered. So a stream and its proxy
do not go on answering each other.
-/

namespace WafControl.Discovery

/-- The number of the responses of a type. -/
def Counts.responseCount (m : Counts) (t : ResourceType) : Nat := (m.responses.find? t).getD 0

theorem Counts.responseCount_respond (m : Counts) (t t' : ResourceType) :
    (m.respond t).responseCount t' = m.responseCount t' + if t = t' then 1 else 0 := by
  by_cases h : t = t'
  · subst h
    simp [responseCount, respond, Table.modify]
  · simp [responseCount, respond, Table.modify, h, Table.find?_insert_of_ne _ (Ne.symm h)]

/-- What a journal lists: an input with the subscriptions that it is taken up by, or a response. -/
inductive Entry where
  | taken (i : Input) (s : Subscriptions)
  | sent (r : Response)
  deriving DecidableEq, Repr

def Entry.response? : Entry → Option Response
  | taken _ _ => none
  | sent r => some r

/-- An entry is one of a list of responses, or comes after them. -/
theorem sent_split {rs : List Response} {e : Entry} {rest before after : List Entry}
    (h : rs.map .sent ++ rest = before ++ e :: after) :
    (∃ rs₁ b rs₂, rs = rs₁ ++ b :: rs₂ ∧ e = .sent b ∧ after = rs₂.map .sent ++ rest) ∨
      ∃ later, before = rs.map .sent ++ later ∧ rest = later ++ e :: after := by
  induction rs generalizing before with
  | nil => exact Or.inr ⟨before, rfl, h⟩
  | cons r rs ih =>
      cases before with
      | nil =>
          obtain ⟨he, hafter⟩ := List.cons.inj h
          exact Or.inl ⟨[], r, rs, rfl, he.symm, hafter.symm⟩
      | cons first before =>
          obtain ⟨rfl, hrest⟩ := List.cons.inj h
          rcases ih hrest with ⟨rs₁, b, rs₂, rfl, he, hafter⟩ | ⟨later, rfl, hlater⟩
          · exact Or.inl ⟨r :: rs₁, b, rs₂, rfl, he, hafter⟩
          · exact Or.inr ⟨later, rfl, hlater⟩

namespace Subscriptions

variable (s : Subscriptions) (m : Counts) (fixed : Option ResourceType)

def journal (s : Subscriptions) (m : Counts) (fixed : Option ResourceType) :
    List Input → List Entry
  | [] => []
  | i :: is =>
    let (rs, s', m) := s.take m fixed i
    .taken i s :: (rs.map .sent ++ s'.journal m fixed is)

/-- Whether a request for a type is accepted and either answers no response or changes the names
that are recorded. -/
def Renews (t : ResourceType) (r : Request) : Prop :=
  typeOf? fixed r = some t ∧ stale (s.subscription t) r = false ∧ r.error = none ∧
    (r.nonce = "" ∨ (s.subscription t).names ≠ r.names)

theorem journal_cons (i : Input) (is : List Input) :
    s.journal m fixed (i :: is) =
      .taken i s :: ((s.take m fixed i).1.map .sent ++
        (s.take m fixed i).2.1.journal (s.take m fixed i).2.2 fixed is) := rfl

theorem filterMap_journal (is : List Input) :
    (s.journal m fixed is).filterMap Entry.response? = (s.serve m fixed is).1 := by
  induction is generalizing s m with
  | nil => rfl
  | cons i is ih =>
      rw [journal_cons, List.filterMap_cons_none rfl, List.filterMap_append, ih, List.filterMap_map]
      exact congrArg (· ++ _) List.filterMap_some

/-! ### What one input causes -/

/-- The responses to one input: each type is sent once at most, its version is recorded, and it is
not the one that was recorded unless a request asks for it again. -/
structure Caused (fixed : Option ResourceType) (i : Input) (s : Subscriptions)
    (rs : List Response) (s' : Subscriptions) : Prop where
  distinct : (rs.map Response.type).Nodup
  recorded : ∀ a ∈ rs, (s'.subscription a.type).sentVersion = some a.version
  kept : ∀ t ∉ rs.map Response.type,
    (s'.subscription t).sentVersion = (s.subscription t).sentVersion
  cause : ∀ b ∈ rs, (s.subscription b.type).sentVersion = some b.version →
    ∃ r snapshot, i = .request r snapshot ∧ s.Renews fixed b.type r

theorem Handled.caused {s s' : Subscriptions} {r : Request} {snapshot : Option Snapshot}
    {response : Option Response} (h : s.Handled fixed r snapshot response s') :
    Caused fixed (.request r snapshot) s response.toList s' := by
  cases h with
  | unknown => exact ⟨List.nodup_nil, nofun, fun _ _ => rfl, nofun⟩
  | stale | rejected | unanswered =>
      exact ⟨List.nodup_nil, nofun, fun t _ => sentVersion_record s _ t _, nofun⟩
  | @answered t x typed fresh accepts published behind =>
      refine ⟨List.nodup_singleton t, ?_, ?_, ?_⟩
      · exact List.forall_mem_singleton.2 (by simp [response])
      · intro t' ht'
        have hne : t' ≠ t := fun heq => ht' (heq ▸ List.mem_singleton_self _)
        rw [subscription_sent_of_ne _ hne, sentVersion_record]
      · refine List.forall_mem_singleton.2 fun hversion => ⟨r, snapshot, rfl, typed, fresh, ?_, ?_⟩
        · simpa using accepts
        · -- an answered request does not accept the version that was sent
          have hsent : (s.subscription t).sentVersion = some x.version := hversion
          simp only [acknowledges, hsent, beq_self_eq_true, Bool.and_true, Bool.and_eq_false_iff,
            bne_eq_false_iff_eq, beq_eq_false_iff_ne] at behind
          exact behind

theorem caused_take (i : Input) :
    Caused fixed i s (s.take m fixed i).1 (s.take m fixed i).2.1 := by
  cases i with
  | request r snapshot => exact (s.handled_handleRequest m fixed r snapshot).caused
  | push x =>
      have htypes := s.map_type_handleSnapshot m x
      have hmem : ∀ a ∈ (s.handleSnapshot m x).1,
          a.type ∈ ResourceType.pushOrder.filter (s.outdated x.version) ∧
            a.version = x.version := by
        intro a ha
        exact ⟨htypes ▸ List.mem_map_of_mem ha, s.version_of_mem_pushAll m x _ a ha⟩
      refine ⟨?_, fun a ha => ?_, fun t ht => ?_, fun b hb hversion => ?_⟩
      · exact htypes ▸ List.Nodup.filter _ (by decide)
      · obtain ⟨ht, hv⟩ := hmem a ha
        rw [take, handleSnapshot, sentVersion_pushAll, if_pos ht, hv]
      · rw [take, htypes] at ht
        rw [take, handleSnapshot, sentVersion_pushAll, if_neg ht]
      · obtain ⟨ht, hv⟩ := hmem b hb
        rw [hv] at hversion
        exact absurd hversion (s.outdated_eq_true_iff.1 (List.mem_filter.1 ht).2).2

theorem take_of_rejection {r : Request} (h : r.error.isSome = true) (snapshot : Option Snapshot) :
    (s.take m fixed (.request r snapshot)).1 = [] := by
  have hr := s.handled_handleRequest m fixed r snapshot
  simp only [take]
  generalize (s.handleRequest m fixed r snapshot).1 = response at hr ⊢
  generalize (s.handleRequest m fixed r snapshot).2.1 = s' at hr
  cases hr with
  | answered typed fresh accepts => simp [h] at accepts
  | _ => rfl

/-! ### What a run causes -/

section Runs

variable {s : Subscriptions} {m : Counts} {fixed : Option ResourceType} {is : List Input}
  {t : ResourceType} {a b : Response} {before between after : List Entry}

/-- A type that was sent a version is sent it again only if a request asks for it. -/
theorem renewed_of_sentVersion {version : String}
    (hs : (s.subscription t).sentVersion = some version)
    (h : s.journal m fixed is = between ++ .sent b :: after) (ht : b.type = t)
    (hversion : b.version = version) (hbetween : ∀ c, .sent c ∈ between → c.type ≠ t) :
    ∃ r snapshot s', .taken (.request r snapshot) s' ∈ between ∧ s'.Renews fixed t r := by
  induction is generalizing s m between with
  | nil => simp [journal] at h
  | cons i is ih =>
      have hcaused := s.caused_take m fixed i
      rw [journal_cons] at h
      cases between with
      | nil => cases (List.cons.inj h).1
      | cons e between =>
          obtain ⟨rfl, hrest⟩ := List.cons.inj h
          rcases sent_split hrest with ⟨rs₁, b', rs₂, hrs, heq, -⟩ | ⟨later, rfl, hlater⟩
          · cases heq
            have hb : b ∈ (s.take m fixed i).1 := hrs ▸ List.mem_append_right _ List.mem_cons_self
            obtain ⟨r, snapshot, rfl, hrenews⟩ :=
              hcaused.cause b hb (by rw [ht, hs, hversion])
            exact ⟨r, snapshot, s, List.mem_cons_self, ht ▸ hrenews⟩
          · have hkept : t ∉ (s.take m fixed i).1.map Response.type := by
              intro hmem
              obtain ⟨c, hc, hct⟩ := List.mem_map.1 hmem
              exact hbetween c (List.mem_cons_of_mem _
                (List.mem_append_left _ (List.mem_map_of_mem hc))) hct
            obtain ⟨r, snapshot, s', hmem, hrenews⟩ :=
              ih ((hcaused.kept t hkept).trans hs) hlater fun c hc =>
                hbetween c (List.mem_cons_of_mem _ (List.mem_append_right _ hc))
            exact ⟨r, snapshot, s', List.mem_cons_of_mem _ (List.mem_append_right _ hmem), hrenews⟩

/-- Two responses of a type that follow each other with the same version are separated by a request
that renews the type. -/
theorem renewed_between
    (h : s.journal m fixed is = before ++ .sent a :: (between ++ .sent b :: after))
    (ht : b.type = a.type) (hversion : b.version = a.version)
    (hbetween : ∀ c, .sent c ∈ between → c.type ≠ a.type) :
    ∃ r snapshot s', .taken (.request r snapshot) s' ∈ between ∧ s'.Renews fixed a.type r := by
  induction is generalizing s m before with
  | nil => simp [journal] at h
  | cons i is ih =>
      have hcaused := s.caused_take m fixed i
      rw [journal_cons] at h
      cases before with
      | nil => cases (List.cons.inj h).1
      | cons e before =>
          rcases sent_split (List.cons.inj h).2 with
            ⟨rs₁, a', rs₂, hrs, heq, hafter⟩ | ⟨later, -, hlater⟩
          · cases heq
            have ha : a ∈ (s.take m fixed i).1 := hrs ▸ List.mem_append_right _ List.mem_cons_self
            rcases sent_split hafter.symm with ⟨rs₃, b', rs₄, rfl, heq, -⟩ | ⟨later, rfl, hlater⟩
            · -- no push sends a type twice
              cases heq
              have hdistinct := hcaused.distinct
              simp [hrs, ht, List.nodup_append] at hdistinct
            · obtain ⟨r, snapshot, s', hmem, hrenews⟩ :=
                renewed_of_sentVersion (hcaused.recorded a ha) hlater ht hversion
                  fun c hc => hbetween c (List.mem_append_right _ hc)
              exact ⟨r, snapshot, s', List.mem_append_right _ hmem, hrenews⟩
          · exact ih hlater

/-- What follows an input in a journal is what it is answered with, and then the next input. -/
theorem journal_of_taken {i : Input} {s' : Subscriptions}
    (h : s.journal m fixed is = before ++ .taken i s' :: after) :
    ∃ m' is', after = (s'.take m' fixed i).1.map .sent ++
      (s'.take m' fixed i).2.1.journal (s'.take m' fixed i).2.2 fixed is' := by
  induction is generalizing s m before with
  | nil => simp [journal] at h
  | cons i' is ih =>
      rw [journal_cons] at h
      cases before with
      | nil =>
          obtain ⟨htaken, rfl⟩ := List.cons.inj h
          cases htaken
          exact ⟨m, is, rfl⟩
      | cons e before =>
          rcases sent_split (List.cons.inj h).2 with ⟨_, _, _, -, heq, -⟩ | ⟨later, -, hlater⟩
          · cases heq
          · exact ih hlater

/-- A rejection is not answered. -/
theorem head?_of_rejection {r : Request} {snapshot : Option Snapshot} {s' : Subscriptions}
    (h : s.journal m fixed is = before ++ .taken (.request r snapshot) s' :: after)
    (hr : r.error.isSome = true) (a : Response) : after.head? ≠ some (.sent a) := by
  obtain ⟨m', is', rfl⟩ := journal_of_taken h
  rw [take_of_rejection _ _ _ hr]
  cases is' <;> simp [journal]

end Runs

/-! ### What a run counts -/

theorem responseCount_pushAll (x : Snapshot) (ts : List ResourceType) (t : ResourceType) :
    (s.pushAll m x ts).2.2.responseCount t =
      m.responseCount t + (ofType t (s.pushAll m x ts).1).length := by
  induction ts generalizing s m with
  | nil => rfl
  | cons t' ts ih =>
      simp only [pushAll, respond_eq, ih, Counts.responseCount_respond, ofType, response,
        List.filter_cons]
      by_cases h : t' = t
      · simp [h, Nat.add_assoc, Nat.add_comm 1]
      · simp [h]

theorem responseCount_handleTyped (t' : ResourceType) (r : Request) (snapshot : Option Snapshot)
    (t : ResourceType) : (s.handleTyped m t' r snapshot).2.2.responseCount t =
      m.responseCount t + (ofType t (s.handleTyped m t' r snapshot).1.toList).length := by
  rw [handleTyped_eq]
  cases verdict (s.subscription t') r snapshot with
  | stale | rejected | recorded => rfl
  | answered x =>
      simp only [Counts.responseCount_respond, Option.toList_some, ofType, response]
      by_cases h : t' = t <;> simp [h]

theorem responseCount_take (i : Input) (t : ResourceType) :
    (s.take m fixed i).2.2.responseCount t =
      m.responseCount t + (ofType t (s.take m fixed i).1).length := by
  cases i with
  | push x => exact s.responseCount_pushAll m x _ t
  | request r snapshot =>
      simp only [take, handleRequest]
      cases typeOf? fixed r with
      | none => rfl
      | some t' => exact s.responseCount_handleTyped m t' r snapshot t

theorem responseCount_serve (is : List Input) (t : ResourceType) :
    (s.serve m fixed is).2.2.responseCount t =
      m.responseCount t + (ofType t (s.serve m fixed is).1).length := by
  induction is generalizing s m with
  | nil => rfl
  | cons i is ih =>
      simp only [serve, ih, responseCount_take, ofType, List.filter_append, List.length_append,
        Nat.add_assoc]

/-- The responses of a stream are numbered from one over all types. Two of a type that follow each
other with the same version are separated by a request that renews the type, rejections are not
answered, and the responses of each type are counted. -/
theorem responses_caused (is : List Input) :
    let served := ({} : Subscriptions).serve m fixed is
    let journal := ({} : Subscriptions).journal m fixed is
    (journal.filterMap Entry.response? = served.1 ∧
        served.1.map Response.nonce = numbered 0 served.1.length) ∧
      (∀ before a between b after, journal = before ++ .sent a :: (between ++ .sent b :: after) →
        b.type = a.type → b.version = a.version →
        (∀ c, .sent c ∈ between → c.type ≠ a.type) →
          ∃ r snapshot s, .taken (.request r snapshot) s ∈ between ∧
            s.Renews fixed a.type r) ∧
      (∀ before r snapshot s after, journal = before ++ .taken (.request r snapshot) s :: after →
        r.error.isSome = true → ∀ a, after.head? ≠ some (.sent a)) ∧
      ∀ t, served.2.2.responseCount t = m.responseCount t + (ofType t served.1).length := by
  intro served journal
  refine ⟨⟨filterMap_journal {} m fixed is, (numbers_serve {} m fixed is).nonces⟩, ?_, ?_, ?_⟩
  · intro before a between b after h ht hversion hbetween
    exact renewed_between h ht hversion hbetween
  · intro before r snapshot s after h hr a
    exact head?_of_rejection h hr a
  · exact responseCount_serve {} m fixed is

/-- Routes are requested, then one of them by its name, and the answer is rejected. -/
def renamedRoutes : List Input :=
  let v1 := Transcript.routedSnapshot "v1" ["shop", "blog"]
  [.request { typeUrl := ResourceType.route.url } (some v1),
    .request { typeUrl := ResourceType.route.url, nonce := "1", names := ["blog"] } (some v1),
    .request
      { typeUrl := ResourceType.route.url, nonce := "2", names := ["blog"],
        error := some (3, "unknown cluster") } (some v1)]

/-- The version is sent twice, and the request for the name stands in between. -/
theorem renamed_routes_caused :
    let journal := ({} : Subscriptions).journal {} none renamedRoutes
    (∃ a b, journal =
        journal.take 1 ++ .sent a :: ((journal.drop 2).take 1 ++ .sent b :: journal.drop 4) ∧
      a.type = .route ∧ b.type = .route ∧ b.version = a.version) ∧
      ∃ r snapshot s, .taken (.request r snapshot) s ∈ (journal.drop 2).take 1 ∧
        s.Renews none .route r := by
  intro journal
  have hjournal : journal = journal.take 1 ++
      .sent ⟨"v1", .route, "1",
        (Transcript.routedSnapshot "v1" ["shop", "blog"]).resources.routes.map .route⟩ ::
      ((journal.drop 2).take 1 ++
        .sent ⟨"v1", .route, "2",
          (Transcript.routedSnapshot "v1" ["blog"]).resources.routes.map .route⟩ ::
        journal.drop 4) := by decide +kernel
  have hbetween : ((journal.drop 2).take 1).filterMap Entry.response? = [] := by decide +kernel
  refine ⟨⟨_, _, hjournal, rfl, rfl, rfl⟩, ?_⟩
  refine (responses_caused {} none renamedRoutes).2.1 _ _ _ _ _ hjournal rfl rfl fun c hc => ?_
  have hsent : c ∈ ((journal.drop 2).take 1).filterMap Entry.response? :=
    List.mem_filterMap.2 ⟨_, hc, rfl⟩
  rw [hbetween] at hsent
  cases hsent

end Subscriptions

end WafControl.Discovery
