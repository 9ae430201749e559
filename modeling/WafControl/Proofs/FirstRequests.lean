import WafControl.Proofs.Dialogues
import WafControl.Proofs.PushedSnapshots
import WafControl.Proofs.ServerRuns
import WafControl.Proofs.Transcripts

/-!
# Fetches and first requests

A fetch is answered without a stream, and a stream finds the type of a request in its service or in
the request. All the same, a request that answers no response gets one and the same answer from a
fetch, as the first one on a stream of the type's service and as the first one on an aggregated
stream, where it names the type by its URL (`fetch_agrees`). They part only where the node has no
snapshot yet: the fetch is refused, and the streams wait for one.

A stream is `Fresh` from its opening until its first request, whatever else the server goes through
(`Fresh.run`).
-/

namespace WafControl.Discovery

/-- The request neither accepts nor rejects a response. -/
structure Request.Opening (r : Request) : Prop where
  nonce : r.nonce = ""
  error : r.error = none

/-- The response that answers such a request where none was sent before. -/
def firstResponse (t : ResourceType) (names : List String) (x : Snapshot) : Response where
  version := x.version
  type := t
  nonce := "1"
  resources := named x names t

namespace Subscriptions

theorem respond_empty (m : Counts) (t : ResourceType) (names : List String) (x : Snapshot) :
    (({} : Subscriptions).respond m t names x).1 = firstResponse t names x := by
  have hnonce : toString (({} : Subscriptions).nonces + 1) = "1" := by decide +kernel
  simp only [respond, hnonce, served_eq_named, firstResponse]

theorem verdict_opening (sub : Subscription) {r : Request} (hr : r.Opening)
    (snapshot : Option Snapshot) :
    verdict sub r snapshot = snapshot.elim .recorded .answered := by
  cases snapshot <;> simp [verdict, stale, acknowledges, hr.nonce, hr.error]

/-- The names are recorded before they are sent, which the response does not show. -/
theorem handleTyped_opening (m : Counts) (t : ResourceType) {r : Request} (hr : r.Opening)
    (snapshot : Option Snapshot) :
    (({} : Subscriptions).handleTyped m t r snapshot).1 =
      snapshot.map (firstResponse t r.names) := by
  rw [handleTyped_eq, verdict_opening _ hr]
  cases snapshot with
  | none => rfl
  | some x =>
      have hsent := congrArg Prod.fst (({} : Subscriptions).respond_record m t r.names x)
      exact congrArg some (hsent.symm.trans (respond_empty m t r.names x))

end Subscriptions

/-- A fetch is answered from the newest snapshot of the node that the request names. -/
theorem fetch_fst (m : Counts) (c : Cache) (t : ResourceType) (r : Request) :
    (fetch m c t r).map Prod.fst = r.nodeId.bind fun node =>
      (c.get node).elim (.error noConfiguration) fun x => .ok (firstResponse t r.names x) := by
  rw [fetch]
  cases r.nodeId with
  | error status => rfl
  | ok node =>
      dsimp only [Except.bind]
      cases c.get node with
      | none => rfl
      | some x => exact congrArg Except.ok (Subscriptions.respond_empty m t r.names x)

/-- So is the first request of a stream, but a node without a snapshot is not refused. -/
theorem Stream.request_fst {fixed : Option ResourceType} {t : ResourceType} {r : Request}
    (ht : Subscriptions.typeOf? fixed r = some t) (hr : r.Opening) (m : Counts) (c : Cache) :
    (Stream.request { fixed } m c r).map Prod.fst = r.nodeId.map fun node =>
      (c.get node).map (firstResponse t r.names) := by
  simp only [Stream.request, identify]
  cases r.nodeId with
  | error status => rfl
  | ok node =>
      have hpeek : (c.watch node).1.peek (c.watch node).2 = c.get node := by
        rw [Watcher.peek, Cache.watch_fst, Cache.get_watch]
      simp only [Except.map, hpeek, Subscriptions.handleRequest, ht,
        Subscriptions.handleTyped_opening m t hr]

namespace Server

/-- What the client of a stream hears of a request that a fetch answers so: a node without a
snapshot is not refused. -/
def heardOf : Except Status Response → List Event
  | .ok answer => [.response answer]
  | .error status => if status = noConfiguration then [] else [.failed status]

/-- A stream of a service that is open and has had no request. -/
def Fresh (s : Server) (id : String) (fixed : Option ResourceType) : Prop :=
  (s.streams.find? id).map OpenStream.stream = some { fixed }

variable {s : Server} {id : String} {fixed : Option ResourceType}

theorem fresh_openStream (h : s.draining = false) (id : String) (fixed : Option ResourceType) :
    (s.openStream id fixed).2.Fresh id fixed := by
  rw [Fresh, find?_openStream, h]
  rfl

theorem Fresh.push (h : s.Fresh id fixed) : (s.pushOn id).2.Fresh id fixed := by
  obtain ⟨o, ho, hst⟩ := Option.map_eq_some_iff.1 h
  simp only [Fresh, pushOn, ho, hst, Stream.push, Table.find?_insert_self, Option.map_some]

theorem Fresh.step (h : s.Fresh id fixed) {e : Step} (he : e.on? = some id → e = .push id) :
    (s.step e).2.Fresh id fixed := by
  by_cases hid : e.on? = some id
  · cases he hid
    exact h.push
  · rw [Fresh, s.find?_step_of_ne hid]
    exact h

/-- A stream stays fresh until something other than a push happens on it. -/
theorem Fresh.run (h : s.Fresh id fixed) (es : List Step)
    (hes : ∀ e ∈ es, e.on? = some id → e = .push id) : (s.run es).2.Fresh id fixed := by
  induction es generalizing s with
  | nil => exact h
  | cons e es ih =>
      exact ih (h.step (hes e List.mem_cons_self)) fun e' he' =>
        hes e' (List.mem_cons_of_mem e he')

theorem fetch_eq (s : Server) (t : ResourceType) (r : Request) :
    (s.fetch t r).1 = (Discovery.fetch s.counts s.cache t r).map Prod.fst := by
  rw [fetch]
  cases Discovery.fetch s.counts s.cache t r <;> rfl

theorem heard_request {o : OpenStream} (ho : s.streams.find? id = some o) (r : Request) :
    heard id (s.step (.request id r)).1 =
      match (o.stream.request s.counts s.cache r).map Prod.fst with
      | .ok response => (response.map Event.response).toList
      | .error status => [.failed status] := by
  simp only [step, heard_tagged, sendAll, ho]
  cases o.stream.request s.counts s.cache r with
  | error status => rfl
  | ok found => exact List.append_nil _

/-- What is heard of the first request on a stream is what a fetch comes to. -/
theorem Fresh.request (h : s.Fresh id fixed) {t : ResourceType} {r : Request}
    (ht : Subscriptions.typeOf? fixed r = some t) (hr : r.Opening) :
    heard id (s.step (.request id r)).1 = heardOf (s.fetch t r).1 := by
  obtain ⟨o, ho, hst⟩ := Option.map_eq_some_iff.1 h
  rw [heard_request ho, hst, Stream.request_fst ht hr, fetch_eq, fetch_fst]
  cases hn : r.nodeId with
  | error status =>
      have hne : status ≠ noConfiguration := by
        rintro rfl
        unfold Request.nodeId at hn
        split at hn
        · split at hn <;> cases hn
        · cases hn
      exact (if_neg hne).symm
  | ok node =>
      dsimp only [Except.map, Except.bind]
      cases s.cache.get node with
      | none => rfl
      | some x => rfl

end Server

open Server

/-- A request that answers no response is answered alike by a fetch and as the first one of a
stream, be it one of the type's service or an aggregated one. Where its node has a snapshot, the
answer has the snapshot's version, the first nonce and the resources asked for. Without a snapshot
the fetch is refused and the streams stay silent, and a request that does not say its node is
refused by all of them. -/
theorem fetch_agrees (s : Server) (t : ResourceType) (r : Request) (hr : r.Opening)
    {typed aggregated : String} (htyped : s.Fresh typed (some t))
    (haggregated : s.Fresh aggregated none) :
    let fetched := (s.fetch t r).1
    let onTyped := heard typed (s.step (.request typed r)).1
    let onAggregated :=
      heard aggregated (s.step (.request aggregated { r with typeUrl := t.url })).1
    (∀ node x, r.node = some node → node ≠ "" → s.cache.get node = some x →
      ∃ answer : Response, answer.version = x.version ∧ answer.type = t ∧ answer.nonce = "1" ∧
        answer.resources = named x r.names t ∧
        fetched = .ok answer ∧ onTyped = [.response answer] ∧
        onAggregated = [.response answer]) ∧
      (∀ node, r.node = some node → node ≠ "" → s.cache.get node = none →
        fetched = .error noConfiguration ∧ onTyped = [] ∧ onAggregated = []) ∧
      (r.Unidentified → fetched = .error missingNode ∧ onTyped = [.failed missingNode] ∧
        onAggregated = [.failed missingNode]) := by
  intro fetched onTyped onAggregated
  have hon : onTyped = heardOf fetched := htyped.request rfl hr
  have hona : onAggregated = heardOf fetched :=
    haggregated.request (r := { r with typeUrl := t.url }) t.ofUrl?_url ⟨hr.nonce, hr.error⟩
  have hfetched : fetched = r.nodeId.bind fun node =>
      (s.cache.get node).elim (.error noConfiguration) fun x =>
        .ok (firstResponse t r.names x) :=
    (s.fetch_eq t r).trans (fetch_fst s.counts s.cache t r)
  refine ⟨fun node x hnode hne hx => ?_, fun node hnode hne hx => ?_, fun hnode => ?_⟩
  · rw [Request.nodeId_eq_ok hne hnode, Except.bind, hx] at hfetched
    refine ⟨firstResponse t r.names x, rfl, rfl, rfl, rfl, hfetched, ?_, ?_⟩
    · rw [hon, hfetched]
      rfl
    · rw [hona, hfetched]
      rfl
  · rw [Request.nodeId_eq_ok hne hnode, Except.bind, hx] at hfetched
    rw [hon, hona, hfetched]
    exact ⟨rfl, rfl, rfl⟩
  · rw [hnode.nodeId_eq] at hfetched
    rw [hon, hona, hfetched]
    exact ⟨rfl, rfl, rfl⟩

/-- What a server goes through after an aggregated stream was opened that stays silent. -/
def busyTimes : List Step :=
  [.publish "node-1" (Transcript.routedSnapshot "v1" ["shop"]), .push "ads",
    .openStream "cds" (some .cluster), .fetch .route (Transcript.openingRequest .route),
    .openStream "other" none, .request "other" (Transcript.openingRequest .cluster),
    .publish "node-1" (Transcript.routedSnapshot "v2" ["shop", "cart"]), .push "other",
    .push "cds"]

theorem busyTimes_fetch_agrees :
    let s := ((({} : Server).openStream "ads" none).2.run busyTimes).2
    let r : Request := { node := some "node-1", names := ["cart", "mail", "cart"] }
    ∃ answer : Response, answer.version = "v2" ∧ answer.resources = [.cluster { name := "cart" }] ∧
      (s.fetch .cluster r).1 = .ok answer ∧
      heard "cds" (s.step (.request "cds" r)).1 = [.response answer] ∧
      heard "ads" (s.step (.request "ads" { r with typeUrl := ResourceType.cluster.url })).1 =
        [.response answer] := by
  intro s r
  have hads : s.Fresh "ads" none :=
    (fresh_openStream rfl "ads" none).run busyTimes (by decide +kernel)
  have hcds : s.Fresh "cds" (some .cluster) := by
    rw [Server.Fresh]
    decide +kernel
  obtain ⟨answer, hversion, -, -, hresources, hanswers⟩ :=
    (fetch_agrees s .cluster r ⟨rfl, rfl⟩ hcds hads).1 "node-1"
      (Transcript.routedSnapshot "v2" ["shop", "cart"]) rfl (by decide) (by decide +kernel)
  exact ⟨answer, hversion, hresources.trans (by decide +kernel), hanswers⟩

end WafControl.Discovery
