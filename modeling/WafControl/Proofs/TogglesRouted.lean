import WafControl.Proofs.AnnouncedHosts
import WafControl.Proofs.Kept
import WafControl.Proofs.RoutedCalls
import WafControl.Proofs.SliceOrder

/-!
# Every change of a protection reaches the router

Whatever the order in which the parts of an agent take their steps, once nothing is left to be done
(`Settled`), every cached slice of a protected service was routed since the store last changed: the
latest routing under its key was of the slice as it is cached, and its calls were decided from the
protections that the store lists now.
-/

namespace WafControl

namespace AgentParts

variable {σ : Type}

/-- What was routed since the store last changed was decided from its protections, unless the store
failed. -/
def LookedUp (r : Router) (s : AgentParts σ) : Prop :=
  ∀ x ∈ s.since, ∀ fqdn, x.slice.serviceFqdn? = some fqdn → x.lookup.isFailed ∨
    x = ⟨x.slice, .listed ((Filter.upstream fqdn).select s.store.protections),
      r.calls x.slice ((Filter.upstream fqdn).select s.store.protections)⟩

theorem lookedUp_routing (r : Router) (slice : EndpointSlice) (store : Store) {fqdn : String}
    (h : slice.serviceFqdn? = some fqdn) : (r.routing slice store).lookup.isFailed ∨
      r.routing slice store = ⟨slice, .listed ((Filter.upstream fqdn).select store.protections),
        r.calls slice ((Filter.upstream fqdn).select store.protections)⟩ := by
  cases hl : store.listError with
  | some e =>
      left
      simp only [Router.routing, EndpointSlice.lookup, h, Store.answerList, hl, Lookup.isFailed]
  | none =>
      right
      have hlookup : slice.lookup store =
          .listed ((Filter.upstream fqdn).select store.protections) := by
        simp only [EndpointSlice.lookup, h, Store.answerList, hl]
      rw [← r.calls_routing hlookup, ← hlookup]
      rfl

variable {r : Router} {s s' : AgentParts σ}

theorem Stepped.lookedUp (hs : Stepped r s s') (h : s.LookedUp r) : s'.LookedUp r := by
  cases hs with
  | steady h' =>
      intro x hx fqdn hf
      rw [h'.protections]
      rcases h'.since x hx with hx | ⟨slice, rfl⟩
      · exact h x hx fqdn hf
      · exact lookedUp_routing r slice s.store hf
  | changed token ps fresh => exact fun x hx => absurd hx List.not_mem_nil
  | listed token pending => exact h
  | forwarded slices informer ready forwards => exact h
  | heeded slices ready replayed => exact h

/-- What holds however the parts take their steps. -/
structure Sound (r : Router) (s : AgentParts σ) : Prop where
  ordered : s.Ordered
  announced : s.Announced
  lookedUp : s.LookedUp r

theorem sound_start (r : Router) (store : Store) (capacity : Nat) (node : Supervised σ) :
    (start store capacity node).Sound r where
  ordered := ordered_start store capacity node
  announced := announced_start store capacity node
  lookedUp := fun _ hx => absurd hx List.not_mem_nil

theorem Sound.step (h : s.Sound r) (c : RelayController) (ops : NodeOps σ) (a : AgentStep σ) :
    (s.step r c ops a).Sound r := by
  have hs := stepped_step r c ops h.ordered.keyed a
  exact ⟨hs.ordered h.ordered, hs.announced h.ordered.keyed h.announced, hs.lookedUp h.lookedUp⟩

theorem Sound.run (h : s.Sound r) (c : RelayController) (ops : NodeOps σ)
    (steps : List (AgentStep σ)) : (s.run r c ops steps).Sound r := by
  induction steps generalizing s with
  | nil => exact h
  | cons a steps ih => exact ih (h.step c ops a)

/-- Nothing is left to be done: the poller has seen the current token, what was announced has been
heeded, nothing is on its way to the router, and the store has answered it since it last changed. -/
structure Settled (s : AgentParts σ) : Prop where
  seen : s.poller.lastSeen = some s.store.version
  heeded : s.hosts.changedSince s.hostsSeen = false
  sent : s.unsent = []
  taken : s.queue.items = []
  idle : s.hand = .idle
  answered : ∀ x ∈ s.since, x.lookup.isFailed = false

/-- The latest routing of a slice under a key. -/
def lastRouting? (k : SliceKey) (s : AgentParts σ) : Option Routing :=
  (s.since ++ s.before).find? fun x => decide (x.slice.key = k)

theorem Settled.recent (h : s.Settled) : s.recent = s.since.map Routing.slice := by
  simp [AgentParts.recent, h.sent, h.taken, h.idle]

theorem Settled.latest? (h : s.Settled) (k : SliceKey) :
    s.latest? k = (s.lastRouting? k).map Routing.slice := by
  rw [AgentParts.latest?, trail, h.recent, ← List.map_append, List.find?_map]
  rfl

theorem Settled.hostsSeen_eq (h : s.Settled) : s.hostsSeen = s.hosts.sets := by
  have hh := h.heeded
  rw [Signal.changedSince] at hh
  simpa using (bne_eq_false_iff_eq.1 hh).symm

/-- Where something was routed under a key since the store last changed, the latest routing was. -/
theorem lastRouting?_mem_since {k : SliceKey} {x : Routing} (hx : s.lastRouting? k = some x)
    (hs : ∃ y ∈ s.since.map Routing.slice, y.key = k) : x ∈ s.since := by
  obtain ⟨z, hz, hk⟩ := hs
  obtain ⟨y, hy, rfl⟩ := List.mem_map.1 hz
  rw [lastRouting?, List.find?_append] at hx
  cases hf : s.since.find? fun x => decide (x.slice.key = k) with
  | none => exact absurd (decide_eq_true hk) (List.find?_eq_none.1 hf y hy)
  | some x' =>
      rw [hf] at hx
      cases hx
      exact List.mem_of_find?_eq_some hf

/-- When nothing is left to be done, every cached slice of a protected service was routed last as it
is cached, and its calls were decided from the protections that the store lists now. -/
theorem Sound.lastRouting? (h : s.Sound r) (hs : s.Settled) {slice : EndpointSlice}
    (hc : slice ∈ s.informer.cache.values) {fqdn : String}
    (hf : slice.serviceFqdn? = some fqdn) (hp : ∃ p ∈ s.store.protections, p.upstreamHost = fqdn) :
    s.lastRouting? slice.key =
      some ⟨slice, .listed ((Filter.upstream fqdn).select s.store.protections),
        r.calls slice ((Filter.upstream fqdn).select s.store.protections)⟩ := by
  have hfind := h.ordered.keyed.find?_of_mem_values hc
  obtain ⟨p, hp, rfl⟩ := hp
  -- the host was announced and heeded, so something was routed under the key since the change
  have hhost : p.upstreamHost ∈ s.hosts.latest := by
    rw [h.announced.hosts hs.seen]
    exact mem_upstreamHosts_of_mem hp (EndpointSlice.serviceFqdn?_ne_empty hf)
  have hcovered := h.announced.covered hs.seen hs.hostsSeen_eq _ _ _ hfind hf hhost
  rw [hs.recent] at hcovered
  -- of what was routed under the key, the cached slice came last
  have hlatest := h.ordered.latest _ _ hfind
  rw [hs.latest?] at hlatest
  obtain ⟨x, hx, hslice⟩ := Option.map_eq_some_iff.1 hlatest
  have hmem := lastRouting?_mem_since hx hcovered
  rw [← hslice] at hf
  rcases h.lookedUp x hmem _ hf with hfailed | heq
  · rw [hs.answered x hmem] at hfailed
    cases hfailed
  · rw [hx, heq, hslice]

/-- However the parts of an agent take their steps, a change of the store is not lost: when nothing
is left to be done, the latest routing under the key of a cached slice of a protected service was of
the slice as it is cached, and its calls were decided from the protections that the store lists now
for the service. -/
theorem toggles_routed (r : Router) (c : RelayController) (ops : NodeOps σ) (store : Store)
    (capacity : Nat) (node : Supervised σ) (steps : List (AgentStep σ)) :
    let s := (start store capacity node).run r c ops steps
    s.Settled → ∀ slice ∈ s.informer.cache.values, ∀ fqdn, slice.serviceFqdn? = some fqdn →
      (∃ p ∈ s.store.protections, p.upstreamHost = fqdn) →
      s.lastRouting? slice.key =
        some ⟨slice, .listed ((Filter.upstream fqdn).select s.store.protections),
          r.calls slice ((Filter.upstream fqdn).select s.store.protections)⟩ := by
  intro s hs slice hc fqdn hf hp
  exact ((sound_start r store capacity node).run c ops steps).lastRouting? hs hc hf hp

/-- A slice is routed for a protection that is on, which is then switched off while the poller is
about to list for the token that it has read. -/
def toggled : List (AgentStep ScriptedNode) :=
  [ .event (.apply Router.sampleSlice), .send, .ask, .answer, .take, .route,
    .change "2" [{ Protection.guarding "shop" "shop.blue.svc" 31000 with mode := .off }],
    .begin, .list, .begin, .ask, .heed [Router.sampleSlice], .answer, .send, .list, .take, .route,
    .heed [Router.sampleSlice], .begin, .begin, .send, .take, .route, .begin, .begin ]

/-- The parts of an agent after the toggle. -/
def toggledParts : AgentParts ScriptedNode :=
  (start { version := "1", protections := [Protection.guarding "shop" "shop.blue.svc" 31000] } 1
    ⟨{}, {}⟩).run Router.sampleRouter { nodeName := "node-1" } ScriptedNode.ops toggled

theorem settled_toggledParts : toggledParts.Settled where
  seen := by decide
  heeded := by decide
  sent := by decide
  taken := by decide
  idle := by decide
  answered := by decide

/-- The relay that was called for before the toggle is called off after it. -/
theorem toggledParts_routed :
    toggledParts.before.map Routing.calls =
        [[⟨⟨"blue", "shop-0"⟩, .present ⟨"gateway.waf.svc", 31000, 8080, 50010⟩⟩]] ∧
      (toggledParts.lastRouting? Router.sampleSlice.key).map Routing.calls =
        some [⟨⟨"blue", "shop-0"⟩, .absent⟩] := by
  refine ⟨by decide, ?_⟩
  have h := toggles_routed Router.sampleRouter { nodeName := "node-1" } ScriptedNode.ops
    { version := "1", protections := [Protection.guarding "shop" "shop.blue.svc" 31000] } 1
    ⟨{}, {}⟩ toggled settled_toggledParts Router.sampleSlice (by decide) "shop.blue.svc" (by decide)
    (by decide)
  have heq : toggledParts.lastRouting? Router.sampleSlice.key = _ := h
  rw [heq]
  decide

end AgentParts

end WafControl
