import WafControl.Proofs.BuildChecks
import WafControl.Proofs.RoutedCalls

/-!
# Is the port that relays forward to served?

The router takes the gateway port of a relay from the first protection listed for a service,
whatever the mode of its engine. The gateway is built from the protections whose engine is on, and a
port goes to the first of them that has it. `Serves` says that requests at a port of a gateway reach
a host, and `hostOn?` which host a listing gives a port to. A build serves a host on a port when the
listing gives the port to it, and when the applications built have names of their own, only then.
-/

namespace WafControl

/-- The listener port of a protection, if one has been allocated to its first ingress. -/
def Protection.listenerPort? (p : Protection) : Option UInt16 :=
  (Build.eligible? p).map Build.port

theorem Protection.upstreamHost_of_ingress? {p : Protection} {found : Application × Ingress}
    (h : p.ingress? = some found) : p.upstreamHost = found.2.upstreamHost := by
  rw [upstreamHost, h]
  rfl

namespace Resources

/-- A listener on the port follows a route configuration that leads to a cluster of the host. -/
def Serves (r : Resources) (port : UInt16) (host : String) : Prop :=
  ∃ l ∈ r.listeners, l.port = port ∧
    ∃ rc ∈ r.routes, rc.name = l.routeConfig ∧
      ∃ x ∈ rc.routes, ∃ c ∈ r.clusters, c.name = x.cluster ∧ c.host = host

instance (r : Resources) (port : UInt16) (host : String) : Decidable (r.Serves port host) := by
  unfold Serves
  infer_instance

end Resources

namespace Build

/-- The host of the first protection to which the port has been allocated. -/
def hostOn? (n : UInt16) (ps : List Protection) : Option String :=
  (ps.find? fun p => p.listenerPort? == some n).map Protection.upstreamHost

theorem hostOn?_cons_of_ne {n : UInt16} {p : Protection} (h : p.listenerPort? ≠ some n)
    (ps : List Protection) : hostOn? n (p :: ps) = hostOn? n ps := by
  rw [hostOn?, List.find?_cons_of_neg (by simpa using h), hostOn?]

theorem hostOn?_cons_of_eq {n : UInt16} {p : Protection} (h : p.listenerPort? = some n)
    (ps : List Protection) : hostOn? n (p :: ps) = some p.upstreamHost := by
  rw [hostOn?, List.find?_cons_of_pos (by simpa using h)]
  rfl

/-- A listing gives a port to the host of what is kept on it. -/
theorem hostOn?_eq_kept (n : UInt16) (ps : List Protection) :
    hostOn? n ps =
      ((kept ps).find? fun found => port found == n).map fun found => found.2.upstreamHost := by
  rw [find?_kept]
  induction ps with
  | nil => rfl
  | cons p ps ih =>
      cases h : eligible? p with
      | none =>
          have hne : p.listenerPort? ≠ some n := by
            simp [Protection.listenerPort?, h]
          rw [hostOn?_cons_of_ne hne, List.filterMap_cons_none h, ih]
      | some found =>
          have hport : p.listenerPort? = some (port found) := by
            simp [Protection.listenerPort?, h]
          have hi := ((p.eligible?_eq_some_iff found).1 h).1
          rw [List.filterMap_cons_some h, List.find?_cons]
          by_cases hn : port found = n
          · rw [hostOn?_cons_of_eq (hport.trans (congrArg some hn)),
              Protection.upstreamHost_of_ingress? hi]
            simp [hn]
          · have hne : p.listenerPort? ≠ some n := by
              rw [hport]
              exact fun he => hn (Option.some.inj he)
            rw [hostOn?_cons_of_ne hne, ih, beq_eq_false_iff_ne.2 hn]

/-- A port that has been allocated goes to some host, and to none but those of the protections it
has been allocated to. -/
theorem exists_hostOn? {n : UInt16} {ps : List Protection} {p : Protection} (hp : p ∈ ps)
    (h : p.listenerPort? = some n) :
    ∃ q ∈ ps, q.listenerPort? = some n ∧ hostOn? n ps = some q.upstreamHost := by
  cases hf : ps.find? fun p => p.listenerPort? == some n with
  | none => exact absurd h (by simpa using List.find?_eq_none.1 hf p hp)
  | some q =>
      refine ⟨q, List.mem_of_find?_eq_some hf, by simpa using List.find?_some hf, ?_⟩
      rw [hostOn?, hf]
      rfl

/-- What is kept on a port is found by it. -/
theorem find?_port_of_mem_kept {ps : List Protection} {found : Application × Ingress}
    (h : found ∈ kept ps) :
    (kept ps).find? (fun other => port other == port found) = some found := by
  cases hf : (kept ps).find? fun other => port other == port found with
  | none => exact absurd (beq_self_eq_true (port found)) (List.find?_eq_none.1 hf found h)
  | some other =>
      have hport : port other = port found := by simpa using List.find?_some hf
      rw [List.inj_on_of_nodup_map (kept_ports_nodup ps) (List.mem_of_find?_eq_some hf) h hport]

end Build

section Build

variable (config : GatewayConfig) {ps : List Protection} {n : UInt16} {host : String}

/-- The path of a request in a build: by the name of an application that is kept on the port to any
application of that name. -/
theorem serves_build_iff :
    (build config ps).Serves n host ↔
      ∃ found ∈ Build.kept ps, Build.port found = n ∧
        ∃ other ∈ Build.kept ps, other.1.name = found.1.name ∧ other.2.upstreamHost = host := by
  constructor
  · rintro ⟨l, hl, hn, rc, hrc, hname, x, hx, c, hc, hcluster, hhost⟩
    obtain ⟨found, hf, rfl⟩ := List.mem_map.1 hl
    obtain ⟨middle, -, rfl⟩ := List.mem_map.1 hrc
    obtain ⟨other, ho, rfl⟩ := List.mem_map.1 hc
    rw [(Build.mem_routes_routeConfig_iff _ _ x).1 hx] at hcluster
    exact ⟨found, hf, hn, other, ho, hcluster.trans hname, hhost⟩
  · rintro ⟨found, hf, hn, other, ho, hname, hhost⟩
    refine ⟨Build.listener config found.1 found.2, List.mem_map.2 ⟨found, hf, rfl⟩, hn,
      Build.routeConfig found.1 found.2, List.mem_map.2 ⟨found, hf, rfl⟩, rfl, _,
      (Build.mem_routes_routeConfig_iff _ _ _).2 rfl,
      Build.cluster config other.1 other.2, List.mem_map.2 ⟨other, ho, rfl⟩, hname, hhost⟩

theorem serves_build_of_hostOn? (h : Build.hostOn? n ps = some host) :
    (build config ps).Serves n host := by
  rw [Build.hostOn?_eq_kept, Option.map_eq_some_iff] at h
  obtain ⟨found, hf, hhost⟩ := h
  have hmem := List.mem_of_find?_eq_some hf
  have hport : Build.port found = n := by simpa using List.find?_some hf
  exact (serves_build_iff config).2 ⟨found, hmem, hport, found, hmem, rfl, hhost⟩

theorem hostOn?_of_serves_build (hd : (Build.names ps).Nodup)
    (h : (build config ps).Serves n host) : Build.hostOn? n ps = some host := by
  obtain ⟨found, hf, rfl, other, ho, hname, rfl⟩ := (serves_build_iff config).1 h
  -- the route can only lead back to the application that it belongs to
  have he : other = found := List.inj_on_of_nodup_map hd ho hf hname
  rw [Build.hostOn?_eq_kept, Build.find?_port_of_mem_kept hf, he]
  rfl

end Build

theorem mem_enabled_iff (p : Protection) (ps : List Protection) :
    p ∈ Filter.enabled.select ps ↔ p ∈ ps ∧ p.mode = .on ∧ p.modSecMode = .on := by
  simp [Filter.select, Filter.accepts_enabled]

theorem mem_upstream_iff (fqdn : String) (p : Protection) (ps : List Protection) :
    p ∈ (Filter.upstream fqdn).select ps ↔ p ∈ ps ∧ p.upstreamHost = fqdn := by
  simp [Filter.select, Filter.accepts_upstream, eq_comm]

namespace Router

/-- A call for a present relay comes from the first protection of the slice's service. It is on, its
listener port is the gateway port of the call, and the service is what it leads to. -/
theorem protection_of_present {r : Router}
    {answer : List RelayCall → RelayCall → Except Failure Unit} {slice : EndpointSlice}
    {store : Store} {pod : PodRef} {options : RelayOptions}
    (h : ⟨pod, .present options⟩ ∈ r.callsMade answer slice store) :
    ∃ fqdn p, slice.serviceFqdn? = some fqdn ∧
      ((Filter.upstream fqdn).select store.protections).head? = some p ∧ p.mode = .on ∧
        p.listenerPort? = some options.gatewayPort := by
  obtain ⟨fqdn, hf, hc⟩ := exists_listing_of_mem_callsMade h
  have hi := intent_of_mem_calls hc
  obtain ⟨p, hp, hm, found, hfound, h0, appPort, -, rfl⟩ :=
    (intent_eq_present_iff r slice _ options).1 hi
  refine ⟨fqdn, p, hf, hp, hm, ?_⟩
  rw [Protection.listenerPort?, (p.eligible?_eq_some_iff found).2 ⟨hfound, h0⟩]
  rfl

/-- The gateway port of a call for a present relay is the listener port of the first protection `p`
of the service, and `p` is on. If the engine of `p` is on too, the gateway listens on the port, and
where no protection that is built leads elsewhere from this port, it serves the service there. In
general it does so if the first protection on the port leads to the service, and when the
applications built have names of their own, only then. -/
theorem present_port_served (r : Router)
    (answer : List RelayCall → RelayCall → Except Failure Unit) (slice : EndpointSlice)
    (store : Store) (config : GatewayConfig) (pod : PodRef) (options : RelayOptions)
    (h : ⟨pod, .present options⟩ ∈ r.callsMade answer slice store) :
    let enabled := Filter.enabled.select store.protections
    let built := build config enabled
    ∃ fqdn p, slice.serviceFqdn? = some fqdn ∧
      ((Filter.upstream fqdn).select store.protections).head? = some p ∧
      p.mode = .on ∧ p.listenerPort? = some options.gatewayPort ∧
      (p.modSecMode = .on →
        (∃ l ∈ built.listeners, l.port = options.gatewayPort) ∧
          ((∀ q ∈ enabled, q.listenerPort? = some options.gatewayPort → q.upstreamHost = fqdn) →
            built.Serves options.gatewayPort fqdn)) ∧
      (Build.hostOn? options.gatewayPort enabled = some fqdn →
        built.Serves options.gatewayPort fqdn) ∧
      ((Build.names enabled).Nodup → built.Serves options.gatewayPort fqdn →
        Build.hostOn? options.gatewayPort enabled = some fqdn) := by
  intro enabled built
  obtain ⟨fqdn, p, hf, hhead, hon, hport⟩ := protection_of_present h
  have hmem := ((mem_upstream_iff fqdn p store.protections).1 (List.mem_of_head? hhead)).1
  refine ⟨fqdn, p, hf, hhead, hon, hport, fun heng => ?_,
    fun hh => serves_build_of_hostOn? config hh, fun hd hs => hostOn?_of_serves_build config hd hs⟩
  obtain ⟨q, hq, hqport, hhost⟩ :=
    Build.exists_hostOn? ((mem_enabled_iff p store.protections).2 ⟨hmem, hon, heng⟩) hport
  have hserves := serves_build_of_hostOn? config hhost
  constructor
  · obtain ⟨l, hl, hlport, -⟩ := hserves
    exact ⟨l, hl, hlport⟩
  · intro hall
    exact hall q hq hqport ▸ hserves

/-- Whether every call for a present relay of a slice gets a port on which the gateway serves the
slice's service. -/
def PortsServed (r : Router) (config : GatewayConfig) (slice : EndpointSlice) (store : Store) :
    Prop :=
  ∀ answer pod options, ⟨pod, .present options⟩ ∈ r.callsMade answer slice store →
    ∃ fqdn, slice.serviceFqdn? = some fqdn ∧
      (build config (Filter.enabled.select store.protections)).Serves options.gatewayPort fqdn

/-- The one call for the slice, when its service is protected on port 31000. -/
def sampleOptions : RelayOptions := ⟨"gateway.waf.svc", 31000, 8080, 50010⟩

/-- The port is served beside that of another protection, and a protection whose engine is off does
not take it away. -/
theorem sample_port_served :
    let store : Store :=
      { protections :=
          [ { Protection.guarding "wiki" "wiki.red.svc" 31000 with modSec := none },
            Protection.guarding "shop" "shop.blue.svc" 31000,
            Protection.guarding "blog" "blog.blue.svc" 31001 ] }
    ⟨⟨"blue", "shop-0"⟩, .present sampleOptions⟩ ∈
        sampleRouter.callsMade (fun _ _ => .ok ()) sampleSlice store ∧
      (build {} (Filter.enabled.select store.protections)).Serves 31000 "shop.blue.svc" := by
  intro store
  have hcall : ⟨⟨"blue", "shop-0"⟩, .present sampleOptions⟩ ∈
      sampleRouter.callsMade (fun _ _ => .ok ()) sampleSlice store := by decide
  obtain ⟨fqdn, p, hf, hp, -, -, hserved, -⟩ :=
    present_port_served sampleRouter _ sampleSlice store {} _ _ hcall
  cases hf
  cases hp
  exact ⟨hcall, (hserved rfl).2 (by decide)⟩

theorem not_portsServed {r : Router} {config : GatewayConfig} {slice : EndpointSlice}
    {store : Store} {answer : List RelayCall → RelayCall → Except Failure Unit} {pod : PodRef}
    {options : RelayOptions} {fqdn : String}
    (hc : ⟨pod, .present options⟩ ∈ r.callsMade answer slice store)
    (hf : slice.serviceFqdn? = some fqdn)
    (hs : ¬ (build config (Filter.enabled.select store.protections)).Serves
      options.gatewayPort fqdn) : ¬ PortsServed r config slice store := by
  intro h
  obtain ⟨served, hserved, hserves⟩ := h answer pod options hc
  rw [hf] at hserved
  cases hserved
  exact hs hserves

/-- Two collections for which a relay forwards to a port that does not serve its service. In the
first the engine is off, so nothing listens; in the second another application has the port. -/
theorem ports_not_always_served :
    ¬ PortsServed sampleRouter {} sampleSlice
        { protections :=
            [{ Protection.guarding "shop" "shop.blue.svc" 31000 with modSec := none }] } ∧
      ¬ PortsServed sampleRouter {} sampleSlice
        { protections :=
            [ Protection.guarding "wiki" "wiki.red.svc" 31000,
              Protection.guarding "shop" "shop.blue.svc" 31000 ] } := by
  have hf : sampleSlice.serviceFqdn? = some "shop.blue.svc" := by decide
  constructor
  · have hc : ⟨⟨"blue", "shop-0"⟩, .present sampleOptions⟩ ∈
        sampleRouter.callsMade (fun _ _ => .ok ()) sampleSlice
          { protections :=
              [{ Protection.guarding "shop" "shop.blue.svc" 31000 with modSec := none }] } := by
      decide
    exact not_portsServed hc hf (by decide)
  · have hc : ⟨⟨"blue", "shop-0"⟩, .present sampleOptions⟩ ∈
        sampleRouter.callsMade (fun _ _ => .ok ()) sampleSlice
          { protections :=
              [ Protection.guarding "wiki" "wiki.red.svc" 31000,
                Protection.guarding "shop" "shop.blue.svc" 31000 ] } := by
      decide
    exact not_portsServed hc hf (by decide)

end Router

end WafControl
