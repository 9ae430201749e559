import WafControl.Proofs.Transcripts

/-!
# Clusters before what refers to them

A push sends the clusters before the other types, so that a proxy never learns of a listener or a
route before it knows the clusters of that version. A request that is handled between a publication
and its push is not held back, however: it is answered from the new snapshot at once, ahead of the
clusters.
-/

namespace WafControl.Discovery

/-- In a log whose latest entry comes first: what is not sent ahead of a push has the version of the
clusters that were sent last. -/
def ClustersLead : List Sending → Prop
  | [] => True
  | y :: log => (y.ahead = false → y.response.type ≠ .cluster →
      ∀ c, lastOf? .cluster log = some c → c.version = y.response.version) ∧ ClustersLead log

theorem ClustersLead.of_append {later log : List Sending} (h : ClustersLead (later ++ log)) :
    ClustersLead log := by
  induction later with
  | nil => exact h
  | cons y later ih => exact ih h.2

theorem Recorded.sentVersion_of_lastOf? {log : List Sending} {subs : Subscriptions}
    (h : Recorded log subs) {t : ResourceType} {r : Response} (hr : lastOf? t log = some r) :
    (subs.subscription t).sentVersion = some r.version := by
  rw [(h.last t).2, hr]
  rfl

section Push

variable {log : List Sending} {subs : Subscriptions} {x : Snapshot}

/-- A push of any types, once the clusters of its version were sent if any were. -/
theorem clustersLead_pushAll (hrec : Recorded log subs) (hlead : ClustersLead log)
    (hc : ∀ v, (subs.subscription .cluster).sentVersion = some v → v = x.version)
    (ts : List ResourceType) (m : Counts) :
    ClustersLead (logged (subs.pushAll m x ts).1 false log) := by
  induction ts generalizing log subs m with
  | nil => exact hlead
  | cons t ts ih =>
      have hfirst : ClustersLead (⟨subs.response t x, false⟩ :: log) :=
        ⟨fun _ _ c hlast => hc _ (hrec.sentVersion_of_lastOf? hlast), hlead⟩
      have hsent : ∀ v, ((subs.sent t x).subscription .cluster).sentVersion = some v →
          v = x.version := by
        intro v hv
        by_cases ht : ResourceType.cluster = t
        · subst ht
          simpa using hv.symm
        · rw [subs.subscription_sent_of_ne ht] at hv
          exact hc v hv
      simpa [Subscriptions.pushAll, subs.respond_eq] using
        ih (hrec.sent t x false) hfirst hsent (m.respond t)

theorem clustersLead_handleSnapshot (hrec : Recorded log subs) (hlead : ClustersLead log)
    (m : Counts) :
    ClustersLead (logged (subs.handleSnapshot m x).1 false log) := by
  rw [Subscriptions.handleSnapshot]
  cases ho : subs.outdated x.version .cluster with
  | true =>
      have hfirst : ClustersLead (⟨subs.response .cluster x, false⟩ :: log) :=
        ⟨fun _ hne => absurd rfl hne, hlead⟩
      have hsent : ∀ v, ((subs.sent .cluster x).subscription .cluster).sentVersion = some v →
          v = x.version := by simp
      have hrest := clustersLead_pushAll (hrec.sent .cluster x false) hfirst hsent
        ([.endpoint, .listener, .route, .secret, .runtime].filter (subs.outdated x.version))
        (m.respond .cluster)
      simpa [ResourceType.pushOrder, List.filter_cons_of_pos ho, Subscriptions.pushAll,
        subs.respond_eq] using hrest
  | false =>
      refine clustersLead_pushAll hrec hlead (fun v hv => ?_) _ m
      have hknown : subs.types.find? .cluster ≠ none := by
        intro hnone
        rw [subs.subscription_of_none hnone] at hv
        cases hv
      rw [subs.sentVersion_of_outdated_eq_false ho hknown] at hv
      exact (Option.some.inj hv).symm

end Push

namespace Transcript

variable {tr : Transcript}

/-- An answer that is not sent ahead of a push is taken from the version that all types have. -/
theorem clustersLead_request (h : tr.Faithful) (hlead : ClustersLead tr.sent) (r : Request) :
    ClustersLead (tr.request r).sent := by
  obtain ⟨response, s', hs, hr⟩ := tr.session.requested_request r
  rw [Transcript.request, hs]
  cases hr with
  | refused status unattended => exact hlead
  | @handled s' response subs m attends handles =>
      have hfaithful := h.attend attends
      cases handles with
      | @answered t x typed fresh accepts published behind =>
          refine ⟨fun hahead _ c hlast => ?_, hlead⟩
          have hsent := hfaithful.recorded.sentVersion_of_lastOf? hlast
          have hcurrent := hfaithful.caughtUp hahead x published .cluster
            (Or.inr (by rw [hsent]; exact Option.some_ne_none _))
          exact Option.some.inj (hsent.symm.trans hcurrent)
      | _ => exact hlead

theorem clustersLead_push (h : tr.Faithful) (hlead : ClustersLead tr.sent) :
    ClustersLead tr.push.sent := by
  obtain ⟨rs, s', hs, hp⟩ := tr.session.pushed_push
  rw [Transcript.push, hs]
  cases hp with
  | idle still => exact hlead
  | nothing unpublished => exact hlead
  | pushed m published =>
      rw [sent_note_see]
      exact clustersLead_handleSnapshot h.recorded hlead tr.session.counts

theorem clustersLead_run (h : tr.Faithful) (hlead : ClustersLead tr.sent) (steps : List Step) :
    ClustersLead (tr.run steps).sent := by
  induction steps generalizing tr with
  | nil => exact hlead
  | cons e steps ih =>
      refine ih (h.step e) ?_
      cases e with
      | publish node x => exact hlead
      | request r => exact clustersLead_request h hlead r
      | push => exact clustersLead_push h hlead

/-- Once clusters were sent, a response of another type comes after the clusters of its version,
unless it answers a request that was handled between a publication and its push. -/
theorem clusters_precede (fixed : Option ResourceType) (cache : Cache) (steps : List Step)
    {later earlier : List Sending} {y : Sending}
    (hlog : ((start fixed cache).run steps).sent = later ++ y :: earlier)
    (hahead : y.ahead = false) (htype : y.response.type ≠ .cluster)
    (hclusters : ∃ z ∈ earlier, z.response.type = .cluster) :
    ∃ c, lastOf? .cluster earlier = some c ∧ c.version = y.response.version := by
  have hlead : ClustersLead ((start fixed cache).run steps).sent :=
    clustersLead_run (faithful_start fixed cache) trivial steps
  rw [hlog] at hlead
  obtain ⟨z, hz, hcluster⟩ := hclusters
  obtain ⟨c, hc⟩ : ∃ c, lastOf? .cluster earlier = some c := by
    refine Option.isSome_iff_exists.1 ?_
    rw [lastOf?, Option.isSome_map, List.find?_isSome]
    exact ⟨z, hz, decide_eq_true hcluster⟩
  exact ⟨c, hc, hlead.of_append.1 hahead htype c hc⟩

/-- Clusters and routes are requested and then pushed twice. -/
def twoPushes : List Step :=
  [.request (openingRequest .cluster), .request (openingRequest .route),
    .publish "node-1" (routedSnapshot "v1" ["shop"]), .push,
    .publish "node-1" (routedSnapshot "v2" ["shop", "cart"]), .push]

theorem pushed_clusters_precede :
    ∃ c, lastOf? .cluster ((start none {}).run twoPushes).sent.tail = some c ∧ c.version = "v2" :=
  @clusters_precede none {} twoPushes [] _
    ⟨⟨"v2", .route, "4", (routedSnapshot "v2" ["shop", "cart"]).resources.routes.map .route⟩, false⟩
    (by decide +kernel) (by decide +kernel) (by decide +kernel) (by decide +kernel)

/-- Whether or not a response is sent ahead of a push: it comes after the clusters of its version,
once clusters were sent. -/
def ClustersFirst (log : List Sending) : Prop :=
  ∀ later y earlier, log = later ++ y :: earlier →
    y.response.type = .listener ∨ y.response.type = .route →
    (∃ z ∈ earlier, z.response.type = .cluster) →
    ∃ c ∈ earlier, c.response.type = .cluster ∧ c.response.version = y.response.version

/-- Routes are requested after a snapshot was published and before it is pushed. -/
def hastyRoutes : List Step :=
  [.publish "node-1" (routedSnapshot "v1" ["shop"]), .request (openingRequest .cluster),
    .publish "node-1" (routedSnapshot "v2" ["shop", "cart"]), .request (openingRequest .route)]

/-- Routes are requested after a version was published again with another cluster. -/
def reusedVersion : List Step :=
  [.publish "node-1" (routedSnapshot "v1" ["shop"]), .request (openingRequest .cluster),
    .publish "node-1" (routedSnapshot "v1" ["shop", "cart"]), .push,
    .request (openingRequest .route)]

/-- Routes can precede the clusters of their version. Even if no publication is unseen, they can
lead to a cluster that was never sent, where two publications have the same version. -/
theorem clusters_not_always_first :
    ¬ ClustersFirst ((start none {}).run hastyRoutes).sent ∧
      ((start none {}).run reusedVersion).sent.map Sending.response =
        [⟨"v1", .route, "2", (routedSnapshot "v1" ["shop", "cart"]).resources.routes.map .route⟩,
          ⟨"v1", .cluster, "1", (routedSnapshot "v1" ["shop"]).resources.clusters.map .cluster⟩] := by
  refine ⟨fun h => ?_, by decide +kernel⟩
  have hlog : ((start none {}).run hastyRoutes).sent =
      [⟨⟨"v2", .route, "2", (routedSnapshot "v2" ["shop", "cart"]).resources.routes.map .route⟩, true⟩,
        ⟨⟨"v1", .cluster, "1", (routedSnapshot "v1" ["shop"]).resources.clusters.map .cluster⟩,
          false⟩] := by decide +kernel
  obtain ⟨c, hc, -, hversion⟩ := h [] _ _ hlog (Or.inr rfl) ⟨_, List.mem_singleton.2 rfl, rfl⟩
  rw [List.mem_singleton.1 hc] at hversion
  exact absurd hversion (by decide +kernel)

end Transcript

end WafControl.Discovery
