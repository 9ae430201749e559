import WafControl.Discovery.Protocol
import Mathlib.Data.List.Nodup

/-!
# The exchange about one type of resources

A proxy asks for resources of a type and answers each response, and the stream handles its requests
in order. A request can be overtaken by a response that the proxy has not seen yet; the stream then
ignores it as stale. This is made up for because the proxy still has to answer that response, and
says then what it wants now.

A rejection is the one request that can change the recorded names without being answered. So what
the stream sent last was taken for the recorded names, or a rejection of it was handled last
(`Refused`). From then on there is nothing to answer, and the next request has other names.
-/

namespace WafControl.Discovery

/-- What a proxy has to do with a type. -/
structure Interest where
  names : List String := []
  /-- Whether the proxy has asked for the type at all. -/
  asked : Bool := false
  /-- The last response that was received. -/
  received : Option Response := none
  /-- The responses received that are not answered yet, oldest first. -/
  owed : List Response := []
  /-- Whether the last request for the type was a rejection. -/
  rejected : Bool := false
  deriving DecidableEq, Repr

namespace Interest

variable (i : Interest)

/-- The nonce of the last response that was received, empty before the first. -/
def nonce : String := (i.received.map Response.nonce).getD ""

def want (names : List String) : Interest := { i with names, asked := true, rejected := false }

def receive (r : Response) : Interest := { i with received := some r, owed := i.owed ++ [r] }

def answer (rejected : Bool) : Interest := { i with owed := i.owed.tail, rejected }

end Interest

/-- What passes between a proxy and a stream about one type, in the order in which it was sent. -/
structure Exchange where
  /-- The requests that are on their way. -/
  asks : List Request
  /-- The responses that are on their way. -/
  answers : List Response
  interest : Interest
  /-- The names that the stream has recorded. -/
  names : List String
  /-- All responses that were sent. -/
  history : List Response

/-- Where an entry is found in a list that something was appended to. -/
theorem split_concat {α : Type} {l before after : List α} {a b : α}
    (h : l ++ [b] = before ++ a :: after) :
    (a = b ∧ after = []) ∨ ∃ rest, after = rest ++ [b] ∧ l = before ++ a :: rest := by
  rcases List.eq_nil_or_concat after with rfl | ⟨rest, z, rfl⟩
  · obtain ⟨-, hlast⟩ := List.append_inj' h rfl
    exact Or.inl ⟨(List.singleton_inj.1 hlast).symm, rfl⟩
  · have h' : l ++ [b] = (before ++ a :: rest) ++ [z] := by simpa using h
    obtain ⟨hl, hlast⟩ := List.append_inj' h' rfl
    exact Or.inr ⟨rest, by rw [List.concat_eq_append, List.singleton_inj.1 hlast], hl⟩

theorem eq_nil_of_getLast? {α : Type} {before after : List α} {a : α}
    (hn : (before ++ a :: after).Nodup) (h : (before ++ a :: after).getLast? = some a) :
    after = [] := by
  rcases List.eq_nil_or_concat after with rfl | ⟨rest, z, rfl⟩
  · rfl
  · have hnot := (List.nodup_cons.1 (List.nodup_append.1 hn).2.1).1
    rw [List.concat_eq_append, ← List.cons_append, ← List.append_assoc, List.getLast?_concat] at h
    simp [Option.some.inj h] at hnot

namespace Exchange

/-- The responses that the proxy has not answered yet. -/
def pending (e : Exchange) : List Response := e.interest.owed ++ e.answers

/-- The nonce of the last response that was sent. -/
def nonce (e : Exchange) : Option String := e.history.getLast?.map Response.nonce

/-- Whether a request is stale to the stream. -/
def Stale (e : Exchange) (m : Request) : Prop := m.nonce ≠ "" ∧ e.nonce ≠ some m.nonce

/-- A response with the resources of a type that the names ask for. -/
def Serves (t : ResourceType) (names : List String) (x : Snapshot) (r : Response) : Prop :=
  r.version = x.version ∧ r.resources = served x.resources t names

/-- The last response was rejected with these names, and the requests came after that: the first of
them has other names, and none answers another response. -/
structure Refused (e : Exchange) (names : List String) (asks : List Request) : Prop where
  answered : e.pending = []
  follow : ∀ m ∈ asks, e.nonce = some m.nonce ∧ m.error = none
  differs : ∀ m, asks.head? = some m → m.names ≠ names
  rejected : asks = [] → e.interest.rejected = true

/-- What holds of an exchange at any time. -/
structure Sound (published : List Snapshot) (t : ResourceType) (e : Exchange) : Prop where
  unasked : e.interest.asked = false → e.asks = [] ∧ e.history = []
  split : ∃ answered, e.history = answered ++ e.pending ∧
    e.interest.received = (answered ++ e.interest.owed).getLast?
  nonces : (e.history.map Response.nonce).Nodup
  nonempty : "" ∉ e.history.map Response.nonce
  known : ∀ m ∈ e.asks, m.nonce = "" ∨ m.nonce ∈ e.history.map Response.nonce
  rejections : ∀ m ∈ e.asks, m.error ≠ none → m.nonce ≠ ""
  latest : ∀ m, e.asks.getLast? = some m →
    m.names = e.interest.names ∧ (e.pending = [] → m.nonce = e.interest.nonce)
  settled : e.interest.asked = true → e.asks = [] → e.pending = [] → e.names = e.interest.names
  serves : ∀ r, e.history.getLast? = some r →
    ∃ x ∈ published, r.version = x.version ∧
      (r.resources = served x.resources t e.names ∨ e.Refused e.names e.asks)
  refusals : ∀ before m after, e.asks = before ++ m :: after → m.error ≠ none →
    e.nonce = some m.nonce → e.Refused m.names after

theorem sound_start (published : List Snapshot) (t : ResourceType) :
    Sound published t ⟨[], [], {}, [], []⟩ where
  unasked := fun _ => ⟨rfl, rfl⟩
  split := ⟨[], rfl, rfl⟩
  nonces := List.nodup_nil
  nonempty := List.not_mem_nil
  known := fun _ h => by cases h
  rejections := fun _ h => by cases h
  latest := fun _ h => by cases h
  settled := fun h => by cases h
  serves := fun _ h => by cases h
  refusals := fun before _ _ h => by cases before <;> cases h

namespace Sound

variable {published : List Snapshot} {t : ResourceType} {e : Exchange}

theorem mono {published' : List Snapshot} (h : e.Sound published t)
    (hsub : ∀ x ∈ published, x ∈ published') : e.Sound published' t := by
  refine { h with serves := fun r hr => ?_ }
  obtain ⟨x, hx, hs⟩ := h.serves r hr
  exact ⟨x, hsub x hx, hs⟩

/-- When every response is answered, the last that was sent is the last that was received. -/
theorem received_eq (h : e.Sound published t) (hp : e.pending = []) :
    e.interest.received = e.history.getLast? := by
  obtain ⟨answered, hh, hr⟩ := h.split
  rw [hr, hh, hp, (List.append_eq_nil_iff.1 hp).1]

theorem nonce_eq (h : e.Sound published t) (hp : e.pending = []) :
    e.interest.nonce = e.nonce.getD "" := by
  rw [Interest.nonce, h.received_eq hp, Exchange.nonce]

theorem nonce_eq_some (h : e.Sound published t) (hp : e.pending = []) (hh : e.history ≠ []) :
    e.nonce = some e.interest.nonce := by
  rw [h.nonce_eq hp, Exchange.nonce, List.getLast?_eq_some_getLast hh]
  rfl

/-- The proxy sends the nonce of a response, or none before it has received one. -/
theorem nonce_known (h : e.Sound published t) :
    e.interest.nonce = "" ∨ e.interest.nonce ∈ e.history.map Response.nonce := by
  obtain ⟨answered, hh, hr⟩ := h.split
  rw [Interest.nonce]
  cases hrec : e.interest.received with
  | none => exact Or.inl rfl
  | some r =>
      have hmem := List.mem_of_getLast? (hr.symm.trans hrec)
      refine Or.inr (List.mem_map_of_mem ?_)
      rw [hh, pending, ← List.append_assoc]
      exact List.mem_append_left _ hmem

theorem asked_of_history (h : e.Sound published t) (hh : e.history ≠ []) :
    e.interest.asked = true := by
  cases ha : e.interest.asked with
  | true => rfl
  | false => exact absurd (h.unasked ha).2 hh

theorem asked_of_asks (h : e.Sound published t) (ha : e.asks ≠ []) : e.interest.asked = true := by
  cases hasked : e.interest.asked with
  | true => rfl
  | false => exact absurd (h.unasked hasked).1 ha

theorem asked_of_pending (h : e.Sound published t) (hp : e.pending ≠ []) :
    e.interest.asked = true := by
  obtain ⟨answered, hh, -⟩ := h.split
  refine h.asked_of_history fun hnil => hp ?_
  rw [hnil] at hh
  exact (List.append_eq_nil_iff.1 hh.symm).2

/-- A request that follows a rejection with other names. -/
theorem refused_want {names wanted : List String} {asks : List Request} {m : Request}
    (h : e.Sound published t) (hh : e.history ≠ []) (hr : e.Refused names asks)
    (hnames : m.names = wanted) (hnonce : m.nonce = e.interest.nonce) (accepts : m.error = none)
    (hdiffers : asks = [] → wanted ≠ names) :
    Refused { e with asks := e.asks ++ [m], interest := e.interest.want wanted } names
      (asks ++ [m]) where
  answered := hr.answered
  follow := by
    intro m' hm'
    rcases List.mem_append.1 hm' with hm' | hm'
    · exact hr.follow m' hm'
    · rw [List.mem_singleton.1 hm', hnonce]
      exact ⟨h.nonce_eq_some hr.answered hh, accepts⟩
  differs := by
    intro m' hm'
    cases asks with
    | nil =>
        cases hm'
        rw [hnames]
        exact hdiffers rfl
    | cons m₀ asks =>
        exact hr.differs m' hm'
  rejected := fun hnil => by simp at hnil

theorem want {names : List String} {m : Request} (h : e.Sound published t)
    (changes : e.interest.asked = true → names ≠ e.interest.names) (hnames : m.names = names)
    (hnonce : m.nonce = if e.interest.asked then e.interest.nonce else "")
    (accepts : m.error = none) :
    Sound published t { e with asks := e.asks ++ [m], interest := e.interest.want names } := by
  have hcurrent : e.pending = [] → m.nonce = e.interest.nonce := by
    intro hp
    cases ha : e.interest.asked with
    | true => rw [hnonce, ha, if_pos rfl]
    | false =>
        rw [hnonce, ha, h.nonce_eq hp, Exchange.nonce, (h.unasked ha).2]
        rfl
  have hlater : e.history ≠ [] → m.nonce = e.interest.nonce := fun hh => by
    rw [hnonce, h.asked_of_history hh, if_pos rfl]
  refine ⟨?_, h.split, h.nonces, h.nonempty, ?_, ?_, ?_, ?_, ?_, ?_⟩
  · intro ha
    cases ha
  · intro m' hm'
    rcases List.mem_append.1 hm' with hm' | hm'
    · exact h.known m' hm'
    · rw [List.mem_singleton.1 hm', hnonce]
      cases e.interest.asked with
      | true => exact h.nonce_known
      | false => exact Or.inl rfl
  · intro m' hm' herror
    rcases List.mem_append.1 hm' with hm' | hm'
    · exact h.rejections m' hm' herror
    · rw [List.mem_singleton.1 hm'] at herror
      exact absurd accepts herror
  · intro m' hm'
    rw [List.getLast?_concat] at hm'
    cases hm'
    exact ⟨hnames, hcurrent⟩
  · intro _ hnil
    simp at hnil
  · intro r hr
    have hh : e.history ≠ [] := by
      intro hnil
      simp [hnil] at hr
    obtain ⟨x, hx, hversion, hs | hs⟩ := h.serves r hr
    · exact ⟨x, hx, hversion, Or.inl hs⟩
    · refine ⟨x, hx, hversion, Or.inr (h.refused_want hh hs hnames (hlater hh) accepts ?_)⟩
      intro hnil
      have hasked := h.asked_of_history hh
      rw [h.settled hasked hnil hs.answered]
      exact changes hasked
  · intro before m' after hasks herror hm'
    have hh : e.history ≠ [] := by
      intro hnil
      simp [Exchange.nonce, hnil] at hm'
    rcases split_concat hasks with ⟨rfl, -⟩ | ⟨after, rfl, hbefore⟩
    · exact absurd accepts herror
    · refine h.refused_want hh (h.refusals before m' after hbefore herror hm') hnames (hlater hh)
        accepts ?_
      rintro rfl
      have hm := (h.latest m' (by simp [hbefore])).1
      rw [hm]
      exact changes (h.asked_of_history hh)

theorem receive {r : Response} {rest : List Response} (h : e.Sound published t)
    (next : e.answers = r :: rest) :
    Sound published t { e with answers := rest, interest := e.interest.receive r } := by
  have hpending : pending { e with answers := rest, interest := e.interest.receive r } =
      e.pending := by
    simp [pending, Interest.receive, next]
  have hne : e.pending ≠ [] := by simp [pending, next]
  have hrefused : ∀ {names asks}, e.Refused names asks →
      Refused { e with answers := rest, interest := e.interest.receive r } names asks :=
    fun hr => absurd hr.answered hne
  refine ⟨h.unasked, ?_, h.nonces, h.nonempty, h.known, h.rejections, ?_, ?_, ?_, ?_⟩
  · obtain ⟨answered, hh, -⟩ := h.split
    refine ⟨answered, by rw [hpending]; exact hh, ?_⟩
    simp [Interest.receive]
  · intro m hm
    refine ⟨(h.latest m hm).1, fun hp => ?_⟩
    rw [hpending] at hp
    exact absurd hp hne
  · intro ha hnil hp
    rw [hpending] at hp
    exact absurd hp hne
  · intro r' hr'
    obtain ⟨x, hx, hversion, hs⟩ := h.serves r' hr'
    exact ⟨x, hx, hversion, hs.imp_right hrefused⟩
  · intro before m after hasks herror hm
    exact hrefused (h.refusals before m after hasks herror hm)

theorem answer {r : Response} {rest : List Response} {m : Request} (h : e.Sound published t)
    (next : e.interest.owed = r :: rest) (hnames : m.names = e.interest.names)
    (hnonce : m.nonce = r.nonce) :
    Sound published t
      { e with asks := e.asks ++ [m], interest := e.interest.answer m.error.isSome } := by
  have hne : e.pending ≠ [] := by simp [pending, next]
  have hpending :
      pending { e with asks := e.asks ++ [m], interest := e.interest.answer m.error.isSome } =
        rest ++ e.answers := by
    simp [pending, Interest.answer, next]
  obtain ⟨answered, hh, hrec⟩ := h.split
  rw [pending, next] at hh
  have hmem : r ∈ e.history := by simp [hh]
  have hr : r.nonce ∈ e.history.map Response.nonce := List.mem_map_of_mem hmem
  refine ⟨?_, ?_, h.nonces, h.nonempty, ?_, ?_, ?_, ?_, ?_, ?_⟩
  · intro ha
    rw [(h.unasked ha).2] at hmem
    cases hmem
  · refine ⟨answered ++ [r], ?_, ?_⟩
    · rw [hpending, hh]
      simp
    · have hrec' : e.interest.received = (answered ++ [r] ++ rest).getLast? := by
        rw [hrec, next, List.append_assoc]
        rfl
      rwa [Interest.answer, next]
  · intro m' hm'
    rcases List.mem_append.1 hm' with hm' | hm'
    · exact h.known m' hm'
    · rw [List.mem_singleton.1 hm', hnonce]
      exact Or.inr hr
  · intro m' hm' herror
    rcases List.mem_append.1 hm' with hm' | hm'
    · exact h.rejections m' hm' herror
    · rw [List.mem_singleton.1 hm', hnonce]
      intro hempty
      exact h.nonempty (hempty ▸ hr)
  · intro m' hm'
    rw [List.getLast?_concat] at hm'
    cases hm'
    refine ⟨hnames, fun hp => ?_⟩
    rw [hpending] at hp
    obtain ⟨rfl, -⟩ := List.append_eq_nil_iff.1 hp
    rw [hnonce, Interest.nonce, Interest.answer, hrec, next]
    simp
  · intro _ hnil
    simp at hnil
  · intro r' hr'
    obtain ⟨x, hx, hversion, hs | hs⟩ := h.serves r' hr'
    · exact ⟨x, hx, hversion, Or.inl hs⟩
    · exact absurd hs.answered hne
  · intro before m' after hasks herror hm'
    rcases split_concat hasks with ⟨rfl, rfl⟩ | ⟨after, rfl, hbefore⟩
    · -- the response with the last nonce is the last one that was pending
      have hn : e.history.map Response.nonce = answered.map Response.nonce ++
          r.nonce :: (rest ++ e.answers).map Response.nonce := by simp [hh]
      have hl : (e.history.map Response.nonce).getLast? = some r.nonce := by
        rw [List.getLast?_map, ← hnonce]
        exact hm'
      have hlast : rest ++ e.answers = [] :=
        List.map_eq_nil_iff.1 (eq_nil_of_getLast? (hn ▸ h.nonces) (hn ▸ hl))
      refine ⟨by rw [hpending]; exact hlast, ?_, ?_, ?_⟩
      · intro _ hm
        cases hm
      · intro _ hm
        cases hm
      · intro _
        exact Option.isSome_iff_ne_none.2 herror
    · exact absurd (h.refusals before m' after hbefore herror hm').answered hne

theorem of_suffix_latest {rest : List Request} {m : Request} (h : e.Sound published t)
    (suffix : rest <:+ e.asks) (hm : rest.getLast? = some m) :
    m.names = e.interest.names ∧ (e.pending = [] → m.nonce = e.interest.nonce) := by
  obtain ⟨skipped, hasks⟩ := suffix
  refine h.latest m ?_
  rw [← hasks, List.getLast?_append, hm]
  rfl

theorem of_suffix_refusals {rest before after : List Request} {m : Request}
    (h : e.Sound published t) (suffix : rest <:+ e.asks) (hrest : rest = before ++ m :: after)
    (herror : m.error ≠ none) (hm : e.nonce = some m.nonce) : e.Refused m.names after := by
  obtain ⟨skipped, hasks⟩ := suffix
  refine h.refusals (skipped ++ before) m after ?_ herror hm
  rw [← hasks, hrest, List.append_assoc]

/-- The stream takes up the next request without answering it. -/
theorem handled {m : Request} {rest : List Request} {names : List String}
    (h : e.Sound published t) (next : e.asks = m :: rest)
    (hsettled : rest = [] → e.pending = [] → names = m.names)
    (hserves : ∀ r x, e.history.getLast? = some r → x ∈ published →
      r.resources = served x.resources t e.names ∨ e.Refused e.names e.asks →
      r.resources = served x.resources t names ∨ e.Refused names rest) :
    Sound published t { e with asks := rest, names } := by
  have suffix : rest <:+ e.asks := next ▸ List.suffix_cons m rest
  have hrefused : ∀ {names' asks'}, e.Refused names' asks' →
      Refused { e with asks := rest, names } names' asks' :=
    fun hr => ⟨hr.answered, hr.follow, hr.differs, hr.rejected⟩
  refine ⟨?_, h.split, h.nonces, h.nonempty, fun m' hm' => h.known m' (suffix.mem hm'),
    fun m' hm' => h.rejections m' (suffix.mem hm'), fun m' hm' => h.of_suffix_latest suffix hm',
    ?_, ?_, fun before m' after hrest herror hm' =>
      hrefused (h.of_suffix_refusals suffix hrest herror hm')⟩
  · intro ha
    rw [(h.unasked ha).1] at next
    cases next
  · intro ha hnil hp
    have hm := h.latest m (by rw [next, show rest = [] from hnil]; rfl)
    exact (hsettled hnil hp).trans hm.1
  · intro r hr
    obtain ⟨x, hx, hversion, hs⟩ := h.serves r hr
    exact ⟨x, hx, hversion, (hserves r x hr hx hs).imp_right hrefused⟩

/-- The proxy's last request is not stale once it has answered everything. -/
theorem not_stale_of_settled {m : Request} (h : e.Sound published t)
    (hm : e.asks.getLast? = some m) (hp : e.pending = []) : ¬ e.Stale m := by
  rintro ⟨hne, hstale⟩
  rw [(h.latest m hm).2 hp] at hne hstale
  by_cases hh : e.history = []
  · rw [h.nonce_eq hp, Exchange.nonce, hh] at hne
    exact hne rfl
  · exact hstale (h.nonce_eq_some hp hh)

theorem ignored {m : Request} {rest : List Request} (h : e.Sound published t)
    (next : e.asks = m :: rest) (stale : e.Stale m) :
    Sound published t { e with asks := rest } := by
  refine h.handled next ?_ ?_
  · rintro rfl hp
    exact absurd stale (h.not_stale_of_settled (by rw [next]; rfl) hp)
  · rintro r x - - (hs | hs)
    · exact Or.inl hs
    · exact absurd (hs.follow m (by simp [next])).1 stale.2

theorem recorded {m : Request} {rest : List Request} (h : e.Sound published t)
    (next : e.asks = m :: rest) (fresh : ¬ e.Stale m)
    (silent : m.error ≠ none ∨ published = [] ∨ m.names = e.names) :
    Sound published t { e with asks := rest, names := m.names } := by
  have hmem : m ∈ e.asks := by simp [next]
  refine h.handled next (fun _ _ => rfl) ?_
  rintro r x - hx hs
  rcases silent with herror | hnone | hnames
  · -- a rejection is not stale if it answers the last response
    have hnonce : e.nonce = some m.nonce :=
      Decidable.of_not_not fun hne => fresh ⟨h.rejections m hmem herror, hne⟩
    exact Or.inr (h.refusals [] m rest next herror hnonce)
  · rw [hnone] at hx
    cases hx
  · rcases hs with hs | hs
    · exact Or.inl (hnames ▸ hs)
    · exact absurd hnames (hs.differs m (by rw [next]; rfl))

theorem sent {rest : List Request} {names : List String} {x : Snapshot} {r : Response}
    (h : e.Sound published t) (asked : e.interest.asked = true) (suffix : rest <:+ e.asks)
    (hx : x ∈ published) (serves : Serves t names x r) (nonempty : r.nonce ≠ "")
    (fresh : r.nonce ∉ e.history.map Response.nonce) :
    Sound published t
      { e with asks := rest, answers := e.answers ++ [r], names, history := e.history ++ [r] } := by
  have hne : pending
      { e with asks := rest, answers := e.answers ++ [r], names, history := e.history ++ [r] } ≠
        [] := by
    simp [pending]
  refine ⟨?_, ?_, ?_, ?_, ?_, fun m hm => h.rejections m (suffix.mem hm), ?_, ?_, ?_, ?_⟩
  · intro ha
    rw [asked] at ha
    cases ha
  · obtain ⟨answered, hh, hrec⟩ := h.split
    exact ⟨answered, by simp [hh, pending], hrec⟩
  · rw [List.map_append, List.nodup_append]
    refine ⟨h.nonces, List.nodup_singleton _, ?_⟩
    rintro n hn n' hn' rfl
    rw [List.mem_singleton.1 hn'] at hn
    exact fresh hn
  · simpa [nonempty.symm] using h.nonempty
  · intro m hm
    rw [List.map_append, List.mem_append]
    exact (h.known m (suffix.mem hm)).imp_right Or.inl
  · intro m hm
    exact ⟨(h.of_suffix_latest suffix hm).1, fun hp => absurd hp hne⟩
  · intro _ _ hp
    exact absurd hp hne
  · intro r' hr'
    rw [List.getLast?_concat] at hr'
    cases hr'
    exact ⟨x, hx, serves.1, Or.inl serves.2⟩
  · intro before m after hrest herror hm
    -- nothing was rejected that is only sent now
    have hmem : m ∈ e.asks := by
      refine suffix.mem ?_
      rw [show rest = before ++ m :: after from hrest]
      simp
    have hnonce : r.nonce = m.nonce := by
      simpa [Exchange.nonce] using hm
    rcases h.known m hmem with hempty | hknown
    · exact absurd (hnonce.trans hempty) nonempty
    · exact absurd (hnonce ▸ hknown) fresh

end Sound

end Exchange

end WafControl.Discovery
