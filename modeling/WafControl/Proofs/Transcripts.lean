import WafControl.Proofs.Sessions

/-!
# What a stream has sent

A transcript is a session with all that was sent on its stream. Whatever the requests are, the
subscriptions record the last response of each type (`Recorded`), and every type that was accepted
or sent was last sent the current version as soon as no publication is unseen (`CaughtUp`).
-/

namespace WafControl.Discovery

/-- A response, and whether there was a publication then that was not pushed yet. -/
structure Sending where
  response : Response
  ahead : Bool
  deriving DecidableEq, Repr

/-- The last response of a type in a log whose latest entry comes first. -/
def lastOf? (t : ResourceType) (log : List Sending) : Option Response :=
  (log.find? fun y => decide (y.response.type = t)).map Sending.response

/-- The log once responses were sent, the first of them first. -/
def logged (rs : List Response) (ahead : Bool) (log : List Sending) : List Sending :=
  (rs.map fun r => ⟨r, ahead⟩).reverse ++ log

@[simp] theorem logged_nil (ahead : Bool) (log : List Sending) : logged [] ahead log = log := rfl

@[simp] theorem logged_cons (r : Response) (rs : List Response) (ahead : Bool)
    (log : List Sending) : logged (r :: rs) ahead log = logged rs ahead (⟨r, ahead⟩ :: log) := by
  simp [logged]

@[simp] theorem logged_concat (rs : List Response) (r : Response) (ahead : Bool)
    (log : List Sending) : logged (rs ++ [r]) ahead log = ⟨r, ahead⟩ :: logged rs ahead log := by
  simp [logged]

structure Transcript where
  session : Session
  /-- What was sent, latest first. -/
  sent : List Sending := []
  /-- The types of the requests that were neither stale nor rejections. -/
  accepted : List ResourceType := []
  deriving DecidableEq, Repr

/-- The type of a request that is attended to, is not stale and rejects nothing. -/
def Session.accepts? (s : Session) (r : Request) : Option ResourceType :=
  (s.attend? r).bind fun s =>
    (Subscriptions.typeOf? s.stream.fixed r).filter fun t =>
      !Subscriptions.stale (s.stream.subscriptions.subscription t) r && !r.error.isSome

/-- A request that answers nothing is never stale. -/
theorem Session.accepts?_of_opening {s s' : Session} {r : Request} {t : ResourceType}
    (ha : s.attend? r = some s') (ht : Subscriptions.typeOf? s'.stream.fixed r = some t)
    (hnonce : r.nonce = "") (herror : r.error = none) : s.accepts? r = some t := by
  simp [Session.accepts?, ha, ht, Subscriptions.stale, hnonce, herror]

namespace Transcript

def start (fixed : Option ResourceType) (cache : Cache) : Transcript := ⟨.start fixed cache, [], []⟩

variable (tr : Transcript)

/-- Notes what was sent in a session that has become `session`. -/
def note (rs : List Response) (session : Session) : Transcript :=
  { tr with session, sent := logged rs session.unseen tr.sent }

def publish (node : String) (x : Snapshot) : Transcript :=
  { tr with session := tr.session.publish node x }

def request (r : Request) : Transcript :=
  let (response, session) := tr.session.request r
  { tr.note response.toList session with
    accepted := (tr.session.accepts? r).toList ++ tr.accepted }

def push : Transcript :=
  let (responses, session) := tr.session.push
  tr.note responses session

theorem sent_note_see (rs : List Response) (session : Session) (subs : Subscriptions) (m : Counts) :
    (tr.note rs (session.see.update subs m)).sent = logged rs false tr.sent := by
  simp [note]

inductive Step where
  | publish (node : String) (x : Snapshot)
  | request (r : Request)
  | push

def step (tr : Transcript) : Step → Transcript
  | .publish node x => tr.publish node x
  | .request r => tr.request r
  | .push => tr.push

def run (tr : Transcript) (steps : List Step) : Transcript := steps.foldl step tr

end Transcript

/-! ### What the subscriptions record -/

theorem lastOf?_cons_of_eq {t : ResourceType} {y : Sending} (h : y.response.type = t)
    (log : List Sending) : lastOf? t (y :: log) = some y.response := by
  simp [lastOf?, h]

theorem lastOf?_cons_of_ne {t : ResourceType} {y : Sending} (h : t ≠ y.response.type)
    (log : List Sending) : lastOf? t (y :: log) = lastOf? t log := by
  simp [lastOf?, Ne.symm h]

/-- The subscriptions record the last response of each type, and count the responses. -/
structure Recorded (log : List Sending) (subs : Subscriptions) : Prop where
  last : ∀ t, (subs.subscription t).nonce = (lastOf? t log).map Response.nonce ∧
    (subs.subscription t).sentVersion = (lastOf? t log).map Response.version
  nonces : log.map (fun y => y.response.nonce) =
    ((List.range subs.nonces).map fun k => toString (k + 1)).reverse

namespace Recorded

variable {log : List Sending} {subs : Subscriptions}

theorem record (h : Recorded log subs) (t : ResourceType) (names : List String) :
    Recorded log (subs.record t names) where
  last := fun t' => by simpa using h.last t'
  nonces := h.nonces

theorem sent (h : Recorded log subs) (t : ResourceType) (x : Snapshot) (ahead : Bool) :
    Recorded (⟨subs.response t x, ahead⟩ :: log) (subs.sent t x) where
  last := by
    intro t'
    by_cases ht : t' = t
    · subst ht
      rw [subs.subscription_sent, lastOf?_cons_of_eq (Eq.refl t')]
      exact ⟨rfl, rfl⟩
    · rw [subs.subscription_sent_of_ne ht, lastOf?_cons_of_ne ht]
      exact h.last t'
  nonces := by
    have hn : (subs.sent t x).nonces = subs.nonces + 1 := rfl
    simp [hn, List.range_succ, h.nonces, Subscriptions.response]

theorem fresh_nonce (h : Recorded log subs) :
    toString (subs.nonces + 1) ∉ log.map fun y => y.response.nonce := by
  rw [h.nonces, List.mem_reverse, List.mem_map]
  rintro ⟨k, hk, hnonce⟩
  have hlt := List.mem_range.1 hk
  have heq := Subscriptions.nonce_inj hnonce
  omega

theorem pushAll {m : Counts} {x : Snapshot} (h : Recorded log subs) (ts : List ResourceType)
    (ahead : Bool) :
    Recorded (logged (subs.pushAll m x ts).1 ahead log) (subs.pushAll m x ts).2.1 := by
  have hsend : ∀ rs s, ∀ t ∈ ts, Recorded (logged rs ahead log) s →
      Recorded (logged (rs ++ [s.response t x]) ahead log) (s.sent t x) := by
    intro rs s t _ hs
    rw [logged_concat]
    exact hs.sent t x ahead
  exact Subscriptions.pushAll_induction x ts hsend m h

end Recorded

/-- Every type that was accepted or sent was last sent the current version. -/
def CaughtUp (current : Option Snapshot) (accepted : List ResourceType) (subs : Subscriptions) :
    Prop :=
  ∀ x, current = some x → ∀ t, t ∈ accepted ∨ (subs.subscription t).sentVersion ≠ none →
    (subs.subscription t).sentVersion = some x.version

namespace CaughtUp

variable {current : Option Snapshot} {accepted : List ResourceType} {subs : Subscriptions}

theorem record (h : CaughtUp current accepted subs) (t : ResourceType) (names : List String) :
    CaughtUp current accepted (subs.record t names) := by
  intro x hx t' ht'
  rw [Subscriptions.sentVersion_record] at ht' ⊢
  exact h x hx t' ht'

theorem sent {x : Snapshot} (h : CaughtUp (some x) accepted subs) (t : ResourceType) :
    CaughtUp (some x) accepted (subs.sent t x) := by
  intro x' hx t' ht'
  cases hx
  by_cases ht : t' = t
  · subst ht
    simp
  · rw [subs.subscription_sent_of_ne ht] at ht' ⊢
    exact h x rfl t' ht'

theorem accept {t : ResourceType} (h : CaughtUp current accepted subs)
    (ht : ∀ x, current = some x → (subs.subscription t).sentVersion = some x.version) :
    CaughtUp current (t :: accepted) subs := by
  intro x hx t' ht'
  by_cases htt : t' = t
  · subst htt
    exact ht x hx
  · exact h x hx t' (by simpa [htt] using ht')

/-- After a push, whatever was sent before. -/
theorem handleSnapshot (listed : ∀ t ∈ accepted, subs.types.find? t ≠ none) (m : Counts)
    (x : Snapshot) : CaughtUp (some x) accepted (subs.handleSnapshot m x).2.1 := by
  intro x' hx t ht
  cases hx
  rw [Subscriptions.handleSnapshot, subs.sentVersion_pushAll] at ht ⊢
  by_cases ho : t ∈ ResourceType.pushOrder.filter (subs.outdated x.version)
  · rw [if_pos ho]
  · rw [if_neg ho] at ht ⊢
    have houtdated : subs.outdated x.version t = false := by
      simpa [ResourceType.mem_pushOrder] using ho
    refine subs.sentVersion_of_outdated_eq_false houtdated ?_
    rcases ht with ht | ht
    · exact listed t ht
    · intro hnone
      rw [subs.subscription_of_none hnone] at ht
      exact ht rfl

end CaughtUp

namespace Transcript

/-- What holds of a transcript at any time. -/
structure Faithful (tr : Transcript) : Prop where
  within : ∀ w, tr.session.stream.watcher = some w →
    w.seen ≤ (tr.session.cache.channel w.node).sets
  fresh : tr.session.stream.watcher = none →
    tr.session.stream.subscriptions = {} ∧ tr.accepted = []
  recorded : Recorded tr.sent tr.session.stream.subscriptions
  listed : ∀ t ∈ tr.accepted, tr.session.stream.subscriptions.types.find? t ≠ none
  caughtUp : tr.session.unseen = false →
    CaughtUp tr.session.current tr.accepted tr.session.stream.subscriptions

theorem faithful_start (fixed : Option ResourceType) (cache : Cache) :
    (start fixed cache).Faithful where
  within := fun _ h => by cases h
  fresh := fun _ => ⟨rfl, rfl⟩
  recorded := ⟨fun _ => ⟨rfl, rfl⟩, rfl⟩
  listed := fun _ h => by cases h
  caughtUp := fun _ _ h => by cases h

variable {tr : Transcript}

theorem Faithful.publish (h : tr.Faithful) (node : String) (x : Snapshot) :
    (tr.publish node x).Faithful where
  within := fun w hw => Nat.le_trans (h.within w hw) (Cache.sets_le_set _ _ _ _)
  fresh := h.fresh
  recorded := h.recorded
  listed := h.listed
  caughtUp := by
    intro hseen
    cases hw : tr.session.stream.watcher with
    | none =>
        intro x' hx
        simp [Transcript.publish, Session.publish, Session.current, hw] at hx
    | some w =>
        by_cases hn : w.node = node
        · subst hn
          have hunseen := tr.session.unseen_publish hw (h.within w hw) x
          exact absurd (hunseen.symm.trans hseen) (by decide)
        · obtain ⟨hu, hc⟩ := tr.session.publish_of_ne hw hn x
          change CaughtUp (tr.session.publish node x).current _ _
          rw [hc]
          exact h.caughtUp (hu.symm.trans hseen)

/-- Attending to a request: a stream that begins to watch its node was sent nothing. -/
theorem Faithful.attend {r : Request} {s' : Session} (h : tr.Faithful)
    (ha : tr.session.attend? r = some s') : Faithful { tr with session := s' } := by
  obtain ⟨-, ⟨w, -, rfl⟩ | ⟨node, hw, -, rfl⟩⟩ := Session.attend?_eq_some ha
  · exact h
  · obtain ⟨hsubs, haccepted⟩ := h.fresh hw
    have hsent : ∀ t, (tr.session.stream.subscriptions.subscription t).sentVersion = none := by
      intro t
      rw [hsubs]
      rfl
    refine ⟨?_, ?_, h.recorded, h.listed, ?_⟩
    · intro w' hw'
      cases hw'
      exact Nat.le_of_eq (congrArg Signal.sets (Cache.channel_watch _ _ _).symm)
    · intro hw'
      cases hw'
    · intro _ x _ t ht
      rcases ht with ht | ht
      · rw [haccepted] at ht
        cases ht
      · exact absurd (hsent t) ht

theorem Faithful.refuse (h : tr.Faithful) (status : Status) :
    Faithful { tr with session := { tr.session with refusal := some status } } :=
  ⟨h.within, h.fresh, h.recorded, h.listed, h.caughtUp⟩

theorem Faithful.update {sent : List Sending} {accepted : List ResourceType}
    {subs : Subscriptions} (h : tr.Faithful) (hw : tr.session.stream.watcher ≠ none) (m : Counts)
    (recorded : Recorded sent subs) (listed : ∀ t ∈ accepted, subs.types.find? t ≠ none)
    (caughtUp : tr.session.unseen = false → CaughtUp tr.session.current accepted subs) :
    Faithful ⟨tr.session.update subs m, sent, accepted⟩ :=
  ⟨h.within, fun hn => absurd hn hw, recorded, listed, caughtUp⟩

/-- Recording names sends nothing. -/
theorem Faithful.record (h : tr.Faithful) (hw : tr.session.stream.watcher ≠ none) (m : Counts)
    (t : ResourceType) (names : List String) :
    Faithful { tr with
      session := tr.session.update (tr.session.stream.subscriptions.record t names) m } := by
  refine h.update hw m (h.recorded.record t names) ?_ fun hseen => (h.caughtUp hseen).record t names
  intro t' ht'
  exact (Subscriptions.find?_record_ne_none_iff _ t names).2 (Or.inr (h.listed t' ht'))

theorem Faithful.send {x : Snapshot} (h : tr.Faithful) (hw : tr.session.stream.watcher ≠ none)
    (m : Counts) (t : ResourceType) (hx : tr.session.current = some x) (ahead : Bool) :
    Faithful { tr with
      session := tr.session.update (tr.session.stream.subscriptions.sent t x) m
      sent := ⟨tr.session.stream.subscriptions.response t x, ahead⟩ :: tr.sent } := by
  refine h.update hw m (h.recorded.sent t x ahead) ?_ fun hseen => ?_
  · intro t' ht'
    exact (Subscriptions.find?_sent_ne_none_iff _ t x).2 (Or.inr (h.listed t' ht'))
  · have hcaught := h.caughtUp hseen
    rw [hx] at hcaught ⊢
    exact hcaught.sent t

theorem Faithful.accept {t : ResourceType} (h : tr.Faithful)
    (hw : tr.session.stream.watcher ≠ none)
    (hknown : tr.session.stream.subscriptions.types.find? t ≠ none)
    (hcurrent : ∀ x, tr.session.current = some x →
      (tr.session.stream.subscriptions.subscription t).sentVersion = some x.version) :
    Faithful { tr with accepted := t :: tr.accepted } := by
  refine ⟨h.within, fun hn => absurd hn hw, h.recorded, ?_, fun hseen =>
    (h.caughtUp hseen).accept hcurrent⟩
  intro t' ht'
  rcases List.mem_cons.1 ht' with rfl | ht'
  · exact hknown
  · exact h.listed t' ht'

/-- Handling a request on a stream that watches its node. -/
theorem Faithful.handle {r : Request} {response : Option Response} {subs : Subscriptions}
    (h : tr.Faithful) (hw : tr.session.stream.watcher ≠ none) (m : Counts)
    (hr : tr.session.stream.subscriptions.Handled tr.session.stream.fixed r tr.session.current
      response subs) :
    Faithful { tr.note response.toList (tr.session.update subs m) with
      accepted := ((Subscriptions.typeOf? tr.session.stream.fixed r).filter fun t =>
        !Subscriptions.stale (tr.session.stream.subscriptions.subscription t) r &&
          !r.error.isSome).toList ++ tr.accepted } := by
  cases hr with
  | unknown untyped =>
      rw [untyped]
      exact h.update hw m h.recorded h.listed h.caughtUp
  | @stale t typed old =>
      simp only [typed, Option.filter_some, old]
      exact h.record hw m t _
  | @rejected t typed fresh rejects =>
      simp only [typed, Option.filter_some, fresh, rejects]
      exact h.record hw m t r.names
  | @unanswered t typed fresh accepts current =>
      simp only [typed, Option.filter_some, fresh, accepts]
      refine (h.record hw m t r.names).accept hw ?_ fun x hx => ?_
      · exact (Subscriptions.find?_record_ne_none_iff _ t r.names).2 (Or.inl rfl)
      · have hack := current x hx
        simp only [Subscriptions.acknowledges, Bool.and_eq_true, beq_iff_eq] at hack
        simpa [Session.update] using hack.2
  | @answered t x typed fresh accepts published behind =>
      simp only [typed, Option.filter_some, fresh, accepts]
      refine ((h.record hw m t r.names).send hw m t published tr.session.unseen).accept hw ?_
        fun x' hx => ?_
      · exact (Subscriptions.find?_sent_ne_none_iff _ t x).2 (Or.inl rfl)
      · have hx' : some x = some x' := published.symm.trans hx
        cases hx'
        simp [Session.update]

theorem Faithful.request (h : tr.Faithful) (r : Request) : (tr.request r).Faithful := by
  obtain ⟨response, s', hs, hr⟩ := tr.session.requested_request r
  rw [Transcript.request, hs]
  cases hr with
  | refused status unattended =>
      rw [Session.accepts?, unattended]
      exact h.refuse status
  | handled m attends handles =>
      rw [Session.accepts?, attends]
      exact (h.attend attends).handle (Session.watcher_of_attend? attends) m handles

theorem Faithful.push (h : tr.Faithful) : tr.push.Faithful := by
  have hwithin : ∀ w, tr.session.see.stream.watcher = some w →
      w.seen ≤ (tr.session.see.cache.channel w.node).sets :=
    fun w hw => Nat.le_of_eq (tr.session.seen_see hw)
  obtain ⟨rs, s', hs, hp⟩ := tr.session.pushed_push
  rw [Transcript.push, hs]
  cases hp with
  | idle still => exact h
  | nothing unpublished =>
      refine ⟨hwithin, fun hn => h.fresh (Option.map_eq_none_iff.1 hn), h.recorded, h.listed, ?_⟩
      intro _ x hx
      rw [tr.session.current_see.symm.trans hx] at unpublished
      cases unpublished
  | @pushed x m published =>
      refine ⟨hwithin, ?_, ?_, ?_, ?_⟩
      · intro hn
        rw [Session.current, Option.map_eq_none_iff.1 hn] at published
        cases published
      · rw [sent_note_see]
        exact h.recorded.pushAll _ false
      · intro t ht
        exact (Subscriptions.find?_handleSnapshot_ne_none_iff _ _ _).2 (h.listed t ht)
      · intro _
        have hcurrent : (tr.session.see.update
            (tr.session.stream.subscriptions.handleSnapshot tr.session.counts x).2.1 m).current =
              some x := by simpa using published
        exact hcurrent ▸ CaughtUp.handleSnapshot h.listed tr.session.counts x

theorem Faithful.step (h : tr.Faithful) (e : Step) : (tr.step e).Faithful := by
  cases e with
  | publish node x => exact h.publish node x
  | request r => exact h.request r
  | push => exact h.push

theorem Faithful.run (h : tr.Faithful) (steps : List Step) : (tr.run steps).Faithful := by
  induction steps generalizing tr with
  | nil => exact h
  | cons e steps ih => exact ih (h.step e)

/-! ### No publication is missed -/

theorem watches_step {node : String} (h : tr.session.Watches node) (e : Step) :
    (tr.step e).session.Watches node := by
  cases e with
  | publish other x => exact h.publish other x
  | request r => exact h.request r
  | push => exact h.push

theorem watches_run {node : String} (h : tr.session.Watches node) (steps : List Step) :
    (tr.run steps).session.Watches node := by
  induction steps generalizing tr with
  | nil => exact h
  | cons e steps ih => exact ih (watches_step h e)

/-- Whatever is requested and published on a stream whose first request names its node: as soon as
no publication is unseen, every type that was accepted was last sent the node's version. -/
theorem accepted_sent_current (fixed : Option ResourceType) (cache : Cache) {first : Request}
    {node : String} (hnode : first.nodeId = .ok node) (steps : List Step) {tr : Transcript}
    (htr : tr = (start fixed cache).run (.request first :: steps))
    (hseen : tr.session.unseen = false) {x : Snapshot} (hx : tr.session.cache.get node = some x) :
    ∀ t ∈ tr.accepted, ∃ r, lastOf? t tr.sent = some r ∧ r.version = x.version := by
  have hwatches : tr.session.Watches node := htr ▸
    watches_run (@Session.watches_of_named (.start fixed cache) node first rfl rfl hnode) steps
  have hfaithful : tr.Faithful := htr ▸ (faithful_start fixed cache).run (.request first :: steps)
  intro t ht
  have hversion := hfaithful.caughtUp hseen x (hwatches.current.trans hx) t (Or.inl ht)
  rw [(hfaithful.recorded.last t).2] at hversion
  exact Option.map_eq_some_iff.1 hversion

/-- A proxy's first request for all resources of a type. -/
def openingRequest (t : ResourceType) : Request := { node := some "node-1", typeUrl := t.url }

/-- A snapshot with a cluster and a route to it under each of the names. -/
def routedSnapshot (version : String) (names : List String) : Snapshot where
  version := version
  resources := {
    clusters := names.map fun name => { name }
    routes := names.map fun name =>
      { name, virtualHosts := [{ name, routes := [{ name, cluster := name }] }] } }

/-- Clusters are requested before there is a snapshot. -/
def earlyClusters : List Step :=
  [.request (openingRequest .cluster), .publish "node-1" (routedSnapshot "v1" ["shop"]), .push]

theorem early_clusters_sent_current :
    ((start none {}).run earlyClusters).accepted = [.cluster] ∧
      ∃ r, lastOf? .cluster ((start none {}).run earlyClusters).sent = some r ∧ r.version = "v1" := by
  refine ⟨by decide +kernel, ?_⟩
  exact @accepted_sent_current none {} (openingRequest .cluster) "node-1" rfl _ _ rfl
    (by decide +kernel) (routedSnapshot "v1" ["shop"]) (by decide +kernel) .cluster
    (by decide +kernel)

end Transcript

end WafControl.Discovery
