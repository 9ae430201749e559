import WafControl.Proofs.ServerRuns
import WafControl.Proofs.Transcripts

/-!
# Proxy nodes are isolated

A stream watches the node that its first request names. What its client hears depends on what the
stream itself goes through and on what is published for that node, in their order. Everything else
can be left out of the run: publications for other nodes, other streams, fetches, what later
requests say about the node, and attempts to push what the stream has already taken up
(`Step.concern`).

Counts are shared by all streams, but only written.
-/

namespace WafControl.Discovery

/-! ### What concerns a stream -/

/-- How a stream stands to its node. -/
inductive Standing where
  /-- It has had no request, so that it has no node yet. -/
  | unnamed
  | caughtUp
  /-- Something was published that it may not have seen. -/
  | behind
  deriving DecidableEq, Repr

namespace Standing

def published : Standing → Standing
  | unnamed => unnamed
  | _ => behind

def requested : Standing → Standing
  | unnamed => caughtUp
  | standing => standing

/-- A stream that stands so to the node. -/
def Holds (node : String) (c : Cache) (st : Stream) : Standing → Prop
  | unnamed => st.watcher = none
  | caughtUp => ∃ w, st.watcher = some w ∧ w.node = node ∧ w.changed c = false
  | behind => ∃ w, st.watcher = some w ∧ w.node = node

variable {node : String} {c c' : Cache} {st : Stream} {standing : Standing}

theorem Holds.node_eq (h : standing.Holds node c st) {w : Watcher} (hw : st.watcher = some w) :
    w.node = node := by
  cases standing with
  | unnamed => cases (show st.watcher = none from h).symm.trans hw
  | caughtUp =>
      obtain ⟨w', hw', hn, -⟩ := h
      cases hw'.symm.trans hw
      exact hn
  | behind =>
      obtain ⟨w', hw', hn⟩ := h
      cases hw'.symm.trans hw
      exact hn

theorem Holds.eq_unnamed (h : standing.Holds node c st) (hw : st.watcher = none) :
    standing = .unnamed := by
  cases standing with
  | unnamed => rfl
  | caughtUp | behind =>
      obtain ⟨w, hw', -⟩ := h
      cases hw.symm.trans hw'

theorem Holds.of_channel (h : standing.Holds node c st) (hc : c'.channel node = c.channel node) :
    standing.Holds node c' st := by
  cases standing with
  | unnamed | behind => exact h
  | caughtUp =>
      obtain ⟨w, hw, rfl, hchanged⟩ := h
      exact ⟨w, hw, rfl, by rw [Watcher.changed, hc, ← Watcher.changed, hchanged]⟩

theorem Holds.publish (h : standing.Holds node c st) : standing.published.Holds node c' st := by
  cases standing with
  | unnamed => exact h
  | caughtUp =>
      obtain ⟨w, hw, hn, -⟩ := h
      exact ⟨w, hw, hn⟩
  | behind => exact h

theorem Holds.request {st₁ : Stream} (h : standing.Holds node c st)
    (hw : st₁.watcher = some (st.reader node c)) : standing.requested.Holds node c st₁ := by
  cases standing with
  | unnamed =>
      rw [Stream.reader, show st.watcher = none from h] at hw
      exact ⟨_, hw, rfl, by simp [Watcher.changed, Signal.changedSince]⟩
  | caughtUp =>
      obtain ⟨w, hw', hn, hchanged⟩ := h
      rw [Stream.reader, hw'] at hw
      exact ⟨w, hw, hn, hchanged⟩
  | behind =>
      obtain ⟨w, hw', hn⟩ := h
      rw [Stream.reader, hw'] at hw
      exact ⟨w, hw, hn⟩

end Standing

namespace Server

/-- What of a step concerns a stream of a node, and how the stream stands then. -/
def Step.concern (id node : String) (standing : Standing) : Step → Option Step × Standing
  | .publish other x =>
    if other = node then (some (.publish other x), standing.published) else (none, standing)
  | .request other r =>
    if other = id then (some (.request other { r with node := some node }), standing.requested)
    else (none, standing)
  | .push other =>
    if other = id ∧ standing = .behind then (some (.push other), .caughtUp) else (none, standing)
  | .close other => (if other = id then some (.close other) else none, standing)
  | .reset other => (if other = id then some (.reset other) else none, standing)
  | .openStream _ _ | .fetch _ _ | .shutDown | .advance _ => (none, standing)

/-- What of the steps after its opening concerns a stream of a node. -/
def concerning (id node : String) (standing : Standing) : List Step → List Step
  | [] => []
  | e :: es =>
    let (kept, standing) := e.concern id node standing
    kept.toList ++ concerning id node standing es

/-- What of a step before its opening concerns a stream of a node. -/
def Step.prior? (node : String) : Step → Option Step
  | .publish other x => if other = node then some (.publish other x) else none
  | .shutDown => some .shutDown
  | _ => none

/-- A stream of a node is in the second server as it is in the first. -/
structure Follows (id node : String) (standing : Standing) (s s' : Server) : Prop where
  stream : (s'.streams.find? id).map OpenStream.stream =
    (s.streams.find? id).map OpenStream.stream
  channel : s'.cache.channel node = s.cache.channel node
  standing : ∀ o, s.streams.find? id = some o → standing.Holds node s.cache o.stream

namespace Follows

variable {id node : String} {standing : Standing} {s s' : Server}

theorem absent (h : Follows id node standing s s') (hs : s.streams.find? id = none) :
    s'.streams.find? id = none := by
  have hstream := h.stream
  rw [hs] at hstream
  exact Option.map_eq_none_iff.1 hstream

theorem present (h : Follows id node standing s s') {o : OpenStream}
    (hs : s.streams.find? id = some o) :
    ∃ o', s'.streams.find? id = some o' ∧ o'.stream = o.stream := by
  have hstream := h.stream
  rw [hs] at hstream
  exact Option.map_eq_some_iff.1 hstream

theorem of_absent (hs : s.streams.find? id = none) (hs' : s'.streams.find? id = none)
    (hc : s'.cache.channel node = s.cache.channel node) : Follows id node standing s s' where
  stream := by rw [hs, hs']
  channel := hc
  standing o ho := by cases hs.symm.trans ho

/-- What happens elsewhere in the first server does not show. -/
theorem elsewhere (h : Follows id node standing s s') {s₁ : Server}
    (hs : s₁.streams.find? id = s.streams.find? id)
    (hc : s₁.cache.channel node = s.cache.channel node) : Follows id node standing s₁ s' where
  stream := hs ▸ h.stream
  channel := hc ▸ h.channel
  standing o ho := (h.standing o (hs ▸ ho)).of_channel hc

theorem publish (h : Follows id node standing s s') (x : Snapshot) :
    Follows id node standing.published { s with cache := s.cache.set node x }
      { s' with cache := s'.cache.set node x } where
  stream := h.stream
  channel := by rw [Cache.channel_set_self, Cache.channel_set_self, h.channel]
  standing o ho := (h.standing o ho).publish

theorem finish (h : Follows id node standing s s') :
    Follows id node standing (s.finish id) (s'.finish id) := by
  refine of_absent (s.find?_finish id) (s'.find?_finish id) ?_
  rw [(s'.on_finish id).channels, (s.on_finish id).channels, h.channel]

theorem endStream (h : Follows id node standing s s') :
    (s'.endStream id).1 = (s.endStream id).1 ∧
      Follows id node standing (s.endStream id).2 (s'.endStream id).2 := by
  cases hs : s.streams.find? id with
  | none => simpa [Server.endStream, Table.contains, hs, h.absent hs] using h
  | some o =>
      obtain ⟨o', hs', -⟩ := h.present hs
      simpa [Server.endStream, Table.contains, hs, hs'] using h.finish

theorem request (h : Follows id node standing s s') (hnode : node ≠ "") (r : Request)
    (hn : standing = .unnamed → r.node = some node) :
    (s'.sendAll id [{ r with node := some node }]).1 = (s.sendAll id [r]).1 ∧
      Follows id node standing.requested (s.sendAll id [r]).2
        (s'.sendAll id [{ r with node := some node }]).2 := by
  cases hs : s.streams.find? id with
  | none =>
      rw [sendAll_of_none s hs, sendAll_of_none s' (h.absent hs)]
      exact ⟨rfl, of_absent hs (h.absent hs) h.channel⟩
  | some o =>
      obtain ⟨o', hs', ho'⟩ := h.present hs
      have hstanding := h.standing o hs
      -- the node is read only by a stream that is unnamed
      have hfirst : o.stream.watcher = none → r.node = some node := fun hw =>
        hn (hstanding.eq_unnamed hw)
      obtain ⟨response, st, m, c, m', c', hr, hr', hw⟩ :=
        o.stream.request_alike s.counts s'.counts hnode (fun _ => hstanding.node_eq) hfirst
          h.channel
      have hc := Stream.channel_request hr node
      simp only [sendAll, hs, hs', ho', hr, hr']
      refine ⟨trivial, ?_, ?_, ?_⟩
      · simp
      · exact (Stream.channel_request hr' node).trans (h.channel.trans hc.symm)
      · intro o₁ ho₁
        rw [Table.find?_insert_self] at ho₁
        cases ho₁
        exact (hstanding.request hw).of_channel hc

theorem push (h : Follows id node .behind s s') :
    (s'.pushOn id).1 = (s.pushOn id).1 ∧
      Follows id node .caughtUp (s.pushOn id).2 (s'.pushOn id).2 := by
  cases hs : s.streams.find? id with
  | none =>
      simp only [pushOn, hs, h.absent hs]
      exact ⟨trivial, of_absent hs (h.absent hs) h.channel⟩
  | some o =>
      obtain ⟨o', hs', ho'⟩ := h.present hs
      obtain ⟨w, hw, rfl⟩ := h.standing o hs
      obtain ⟨hsent, hst⟩ := o.stream.push_alike s.counts s'.counts hw h.channel
      obtain ⟨w', hw', hn, hchanged⟩ := o.stream.watcher_push s.counts (c := s.cache) hw
      simp only [pushOn, hs, hs', ho', hsent]
      refine ⟨trivial, ?_, h.channel, ?_⟩
      · simp [hst]
      · intro o₁ ho₁
        rw [Table.find?_insert_self] at ho₁
        cases ho₁
        exact ⟨w', hw', hn, hchanged⟩

/-- A stream that is not behind has nothing to push. -/
theorem push_idle (h : Follows id node standing s s') (hb : standing ≠ .behind) :
    (s.pushOn id).1 = [] ∧ Follows id node standing (s.pushOn id).2 s' := by
  cases hs : s.streams.find? id with
  | none => simpa [pushOn, hs] using h
  | some o =>
      have hseen : ∀ w, o.stream.watcher = some w → w.changed s.cache = false := by
        intro w hw
        cases standing with
        | unnamed => cases (h.standing o hs).symm.trans hw
        | caughtUp =>
            obtain ⟨w', hw', -, hchanged⟩ := h.standing o hs
            cases hw'.symm.trans hw
            exact hchanged
        | behind => exact absurd rfl hb
      simp only [pushOn, hs, o.stream.push_of_seen s.counts hseen, List.map_nil, true_and]
      exact h.elsewhere ((Table.find?_insert_self _ _ _).trans hs.symm) rfl

end Follows

variable {id node : String} {standing : Standing} {s s' : Server}

/-- What a stream hears of a step is what it hears of that which concerns it, and it is followed
then. -/
def Followed (id node : String) (standing : Standing) (s s' : Server) (e : Step) : Prop :=
  heard id (s'.run (e.concern id node standing).1.toList).1 = heard id (s.step e).1 ∧
    Follows id node (e.concern id node standing).2 (s.step e).2
      (s'.run (e.concern id node standing).1.toList).2

theorem Step.concern_of_ne {e : Step} (he : e.on? ≠ some id) (hp : ∀ x, e ≠ .publish node x) :
    e.concern id node standing = (none, standing) := by
  cases e with
  | publish other x =>
      have ho : other ≠ node := fun ho => hp x (congrArg (Step.publish · x) ho)
      exact if_neg ho
  | request other _ | push other | close other | reset other =>
      have ho : other ≠ id := fun ho => he (congrArg some ho)
      simp [concern, ho]
  | openStream | fetch | shutDown | advance => rfl

theorem Follows.other (h : Follows id node standing s s') {e : Step} (he : e.on? ≠ some id)
    (hp : ∀ x, e ≠ .publish node x) : Followed id node standing s s' e := by
  rw [Followed, Step.concern_of_ne he hp, s.heard_step_of_ne he]
  exact ⟨rfl, h.elsewhere (s.find?_step_of_ne he) (s.channel_step_of_ne hp)⟩

theorem Follows.own (h : Follows id node standing s s') (hnode : node ≠ "") {e : Step}
    (he : e.on? = some id) (hopen : ∀ fixed, e ≠ .openStream id fixed)
    (hn : standing = .unnamed → ∀ r, e.request? id = some r → r.node = some node) :
    Followed id node standing s s' e := by
  cases e with
  | openStream other fixed =>
      cases he
      exact absurd rfl (hopen fixed)
  | request other r =>
      cases he
      have hnow := h.request hnode r fun hst => hn hst r (if_pos rfl)
      simpa [Followed, Step.concern, Server.step] using hnow
  | push other =>
      cases he
      by_cases hb : standing = .behind
      · subst hb
        have hnow := h.push
        simpa [Followed, Step.concern, Server.step] using hnow
      · obtain ⟨hnone, hfollows⟩ := h.push_idle hb
        simpa [Followed, Step.concern, Server.step, hb, hnone] using hfollows
  | close other =>
      cases he
      have hnow := h.endStream
      simpa [Followed, Step.concern, Server.step] using hnow
  | reset other =>
      cases he
      have hnow := h.finish
      simpa [Followed, Step.concern, Server.step, Server.reset] using hnow
  | publish | fetch | shutDown | advance => cases he

theorem Follows.step (h : Follows id node standing s s') (hnode : node ≠ "") (e : Step)
    (hopen : ∀ fixed, e ≠ .openStream id fixed)
    (hn : standing = .unnamed → ∀ r, e.request? id = some r → r.node = some node) :
    Followed id node standing s s' e := by
  by_cases he : e.on? = some id
  · exact h.own hnode he hopen hn
  · by_cases hp : ∃ x, e = .publish node x
    · obtain ⟨x, rfl⟩ := hp
      have hnow := h.publish x
      simpa [Followed, Step.concern, Server.step] using hnow
    · exact h.other he (not_exists.1 hp)

theorem Step.standing_of_concern {e : Step} (h : (e.concern id node standing).2 = .unnamed) :
    standing = .unnamed ∧ e.request? id = none := by
  have hpublished : standing.published = .unnamed → standing = .unnamed := by
    cases standing <;> decide
  have hrequested : standing.requested ≠ .unnamed := by cases standing <;> decide
  cases e with
  | publish other x =>
      refine ⟨?_, rfl⟩
      by_cases ho : other = node
      · exact hpublished (by simpa [concern, ho] using h)
      · simpa [concern, ho] using h
  | request other r =>
      by_cases ho : other = id
      · exact absurd (by simpa [concern, ho] using h) hrequested
      · exact ⟨by simpa [concern, ho] using h, if_neg ho⟩
  | push other =>
      refine ⟨?_, rfl⟩
      by_cases hb : other = id ∧ standing = .behind
      · simp [concern, hb] at h
      · rwa [concern, if_neg hb] at h
  | openStream | close | reset | fetch | shutDown | advance => exact ⟨h, rfl⟩

/-- A stream that is followed hears the same of a run as of what concerns it. -/
theorem Follows.run (h : Follows id node standing s s') (hnode : node ≠ "") (es : List Step)
    (hopen : ∀ fixed, Step.openStream id fixed ∉ es)
    (hn : standing = .unnamed → ∀ first,
      (es.filterMap (Step.request? id)).head? = some first → first.node = some node) :
    heard id (s'.run (concerning id node standing es)).1 = heard id (s.run es).1 := by
  induction es generalizing standing s s' with
  | nil => rfl
  | cons e es ih =>
      obtain ⟨hnow, hfollows⟩ := h.step hnode e
        (fun fixed he => hopen fixed (he ▸ List.mem_cons_self))
        fun hst r hr => hn hst r (by rw [List.filterMap_cons_some hr, List.head?_cons])
      have hlater := ih hfollows (fun fixed he => hopen fixed (List.mem_cons_of_mem e he)) ?_
      · rw [concerning, run_append, run_cons]
        simp only [heard_append, hnow, hlater]
      · -- without a request the stream stays unnamed, and its first one is still to come
        intro hst first hfirst
        obtain ⟨hst, hr⟩ := Step.standing_of_concern hst
        exact hn hst first (by rwa [List.filterMap_cons_none hr])

/-! ### Before the stream is opened -/

/-- Two servers that are alike for a stream of the node that is still to be opened. -/
structure Accords (node : String) (s s' : Server) : Prop where
  draining : s'.draining = s.draining
  channel : s'.cache.channel node = s.cache.channel node

theorem Accords.step (h : Accords node s s') (e : Step) :
    Accords node (s.step e).2 (s'.run (e.prior? node).toList).2 := by
  by_cases hp : ∃ x, e = .publish node x
  · obtain ⟨x, rfl⟩ := hp
    have hc : (s'.cache.set node x).channel node = (s.cache.set node x).channel node := by
      rw [Cache.channel_set_self, Cache.channel_set_self, h.channel]
    rw [Step.prior?, if_pos rfl]
    exact ⟨h.draining, hc⟩
  · have hc := s.channel_step_of_ne (not_exists.1 hp)
    by_cases hd : e = .shutDown
    · subst hd
      exact ⟨rfl, h.channel⟩
    · have hprior : e.prior? node = none := by
        cases e with
        | publish other x =>
            have ho : other ≠ node := fun ho => hp ⟨x, congrArg (Step.publish · x) ho⟩
            exact if_neg ho
        | shutDown => exact absurd rfl hd
        | openStream | request | push | close | reset | fetch | advance => rfl
      rw [hprior]
      exact ⟨h.draining.trans (s.draining_step_of_ne hd).symm, h.channel.trans hc.symm⟩

theorem Accords.run (h : Accords node s s') (es : List Step) :
    Accords node (s.run es).2 (s'.run (es.filterMap (Step.prior? node))).2 := by
  induction es generalizing s s' with
  | nil => exact h
  | cons e es ih =>
      have hsplit : (e :: es).filterMap (Step.prior? node) =
          (e.prior? node).toList ++ es.filterMap (Step.prior? node) := by
        rw [List.filterMap_cons]
        cases e.prior? node <;> rfl
      rw [hsplit, run_append]
      exact ih (h.step e)

theorem Accords.openStream (h : Accords node s s') (id : String) (fixed : Option ResourceType) :
    Follows id node .unnamed (s.openStream id fixed).2 (s'.openStream id fixed).2 where
  stream := by rw [find?_openStream, find?_openStream, h.draining]
  channel := by
    rw [(s'.on_openStream id fixed).channels, (s.on_openStream id fixed).channels, h.channel]
  standing o ho := by
    have hopened := s.find?_openStream id fixed
    rw [ho] at hopened
    cases hd : s.draining with
    | true => simp [hd] at hopened
    | false =>
        simp only [hd, Option.map_some, Bool.false_eq_true, if_false, Option.some.injEq] at hopened
        rw [hopened]
        rfl

end Server

/-! ### Streams of a run -/

open Server

/-- A stream of a run: the steps before it is opened, and those after, up to where its id is used
again. -/
@[ext]
structure Life (id : String) where
  before : List Step
  fixed : Option ResourceType
  after : List Step
  once : ∀ fixed, Step.openStream id fixed ∉ after

theorem Server.openStream_not_mem_concerning {id : String} (node : String) (standing : Standing)
    (es : List Step) (fixed : Option ResourceType) :
    Step.openStream id fixed ∉ concerning id node standing es := by
  induction es generalizing standing with
  | nil => exact List.not_mem_nil
  | cons e es ih =>
      rw [concerning]
      refine fun h => (List.mem_append.1 h).elim (fun he => ?_) (ih _)
      cases e <;> grind [Step.concern]

namespace Life

variable {id : String} (l : Life id)

/-- The server with the stream just opened. -/
def opened : Server := ((({} : Server).run l.before).2.openStream id l.fixed).2

/-- What the client of the stream hears. -/
def heard : List Event := Server.heard id (l.opened.run l.after).1

def requests : List Request := l.after.filterMap (Step.request? id)

/-- The stream's first request names the node. -/
def Names (node : String) : Prop :=
  node ≠ "" ∧ ∀ first, l.requests.head? = some first → first.node = some node

/-- The stream without everything that does not concern a stream of the node. -/
def alone (node : String) : Life id where
  before := l.before.filterMap (Step.prior? node)
  fixed := l.fixed
  after := concerning id node .unnamed l.after
  once := openStream_not_mem_concerning node .unnamed l.after

theorem heard_alone {node : String} (h : l.Names node) : (l.alone node).heard = l.heard := by
  have hbefore := (Accords.mk rfl rfl : Accords node {} {}).run l.before
  exact (hbefore.openStream id l.fixed).run h.1 l.after l.once fun _ => h.2

theorem heard_eq {l' : Life id} {node : String} (h : l.Names node) (h' : l'.Names node)
    (hsame : l'.alone node = l.alone node) : l'.heard = l.heard := by
  rw [← l'.heard_alone h', hsame, l.heard_alone h]

theorem no_response {first : Request} (h : l.requests.head? = some first)
    (hnone : first.Unidentified) (x : Response) : .response x ∉ l.heard := by
  rw [heard, opened]
  cases hd : (({} : Server).run l.before).2.draining with
  | true =>
      have hover := (({} : Server).run l.before).2.find?_openStream id l.fixed
      rw [hd, if_pos rfl, Option.map_eq_none_iff] at hover
      rw [heard_of_absent hover l.after l.once]
      exact List.not_mem_nil
  | false =>
      refine (waiting_openStream hd id l.fixed).no_response l.after l.once ?_ x
      intro first' h'
      cases h.symm.trans h'
      exact hnone

theorem heard_unidentified {first : Request} (hnone : first.Unidentified)
    {idle rest : List Step} (hafter : l.after = idle ++ .request id first :: rest)
    (hidle : ∀ e ∈ idle, e.on? = some id → e = .push id) (hbefore : Step.shutDown ∉ l.before) :
    l.heard = [.failed missingNode] := by
  have hd := draining_run {} hbefore
  have hwaiting : Waiting id l.opened := waiting_openStream hd id l.fixed
  obtain ⟨hquiet, hwaiting⟩ := hwaiting.run hidle
  have hrest : ∀ fixed, Step.openStream id fixed ∉ rest := fun fixed he =>
    l.once fixed (by rw [hafter]; exact List.mem_append_right _ (List.mem_cons_of_mem _ he))
  have hgone := heard_of_absent ((l.opened.run idle).2.find?_finish id) rest hrest
  rw [heard, hafter, run_append, run_cons]
  dsimp only
  rw [hwaiting.request hnone, heard_append, heard_append, hquiet, hgone]
  simp [Server.heard]

/-- The client of a stream hears what it would hear if nothing happened that does not concern a
stream of its node; so streams that agree on what concerns them hear the same. A stream whose first
request does not say its node hears no response: it is refused if it is still open then. -/
theorem nodes_isolated :
    (∀ node, l.Names node → (l.alone node).heard = l.heard ∧
      ∀ l' : Life id, l'.Names node → l'.alone node = l.alone node → l'.heard = l.heard) ∧
    ∀ first, l.requests.head? = some first → first.Unidentified →
      (∀ x, .response x ∉ l.heard) ∧
      ∀ idle rest, l.after = idle ++ .request id first :: rest →
        (∀ e ∈ idle, e.on? = some id → e = .push id) → .shutDown ∉ l.before →
          l.heard = [.failed ⟨.invalidArgument, "request must identify the proxy node"⟩] := by
  refine ⟨fun node h => ⟨l.heard_alone h, fun l' h' => l.heard_eq h h'⟩, ?_⟩
  intro first h hnone
  refine ⟨l.no_response h hnone, fun idle rest hafter hidle hbefore => ?_⟩
  exact l.heard_unidentified hnone hafter hidle hbefore

/-- A stream of the first node, beside one of the second. -/
def shared : Life "s" where
  before :=
    [.publish "node-1" (Transcript.routedSnapshot "v1" ["shop"]),
      .publish "node-2" (Transcript.routedSnapshot "v7" ["blog"]), .openStream "t" none,
      .request "t" { node := some "node-2", typeUrl := ResourceType.cluster.url }]
  fixed := none
  after :=
    [.request "s" (Transcript.openingRequest .cluster),
      .publish "node-2" (Transcript.routedSnapshot "v8" ["mail"]), .push "t", .push "s",
      .publish "node-1" (Transcript.routedSnapshot "v2" ["shop", "blog"]),
      .fetch .cluster { node := some "node-2" },
      .request "s"
        { node := some "node-2", typeUrl := ResourceType.cluster.url, nonce := "1" },
      .push "s", .close "s"]
  once := by simp

/-- The same without the second node. -/
def lonely : Life "s" where
  before := [.publish "node-1" (Transcript.routedSnapshot "v1" ["shop"])]
  fixed := none
  after :=
    [.request "s" (Transcript.openingRequest .cluster),
      .publish "node-1" (Transcript.routedSnapshot "v2" ["shop", "blog"]),
      .request "s" { typeUrl := ResourceType.cluster.url, nonce := "1" }, .push "s", .close "s"]
  once := by simp

/-- A stream that names its node too late. -/
def stray : Life "s" where
  before := [.publish "node-1" (Transcript.routedSnapshot "v1" ["shop"])]
  fixed := none
  after :=
    [.push "s", .request "s" { typeUrl := ResourceType.cluster.url },
      .request "s" (Transcript.openingRequest .cluster)]
  once := by simp

theorem shared_isolated :
    lonely.heard = shared.heard ∧ shared.heard.length = 3 ∧
      stray.heard = [.failed ⟨.invalidArgument, "request must identify the proxy node"⟩] := by
  have hshared : shared.Names "node-1" := by
    refine ⟨by decide, fun first h => ?_⟩
    cases h
    rfl
  have hlonely : lonely.Names "node-1" := by
    refine ⟨by decide, fun first h => ?_⟩
    cases h
    rfl
  have hsame : lonely.alone "node-1" = shared.alone "node-1" := by
    ext1
    · decide +kernel
    · rfl
    · decide +kernel
  refine ⟨((nodes_isolated shared).1 "node-1" hshared).2 lonely hlonely hsame,
    by decide +kernel, ?_⟩
  exact ((nodes_isolated stray).2 { typeUrl := ResourceType.cluster.url } rfl (Or.inl rfl)).2
    [.push "s"] _ rfl (by decide) (by decide)

end Life

end WafControl.Discovery
