import WafControl.Gateway.Build
import WafControl.Proofs.Consistency

/-!
# Which protections are built

`kept ps` drops the protections without an allocated listener port, and of several that share a port
it keeps the first. So the ports of what is kept are distinct, and what is kept on a port is the
first eligible protection with that port (`find?_kept`). The lists of a build are all mapped from
`kept`, which gives their names and ports.
-/

namespace WafControl

theorem Protection.eligible?_eq_some_iff (p : Protection) (found : Application × Ingress) :
    Build.eligible? p = some found ↔
      p.ingress? = some found ∧ found.2.proxyListenerPort ≠ 0 := by
  simp [Build.eligible?, Option.filter_eq_some_iff]

/-- The application of a protection and the ingress that fronts it, if that has a listener port. -/
def Protection.Eligible (p : Protection) (found : Application × Ingress) : Prop :=
  p.application = some found.1 ∧ found.1.ingresses.head? = some found.2 ∧
    found.2.proxyListenerPort ≠ 0

theorem Protection.eligible_iff_ingress? (p : Protection) (found : Application × Ingress) :
    p.Eligible found ↔ p.ingress? = some found ∧ found.2.proxyListenerPort ≠ 0 := by
  obtain ⟨app, ingress⟩ := found
  rw [ingress?, Option.bind_eq_some_iff]
  constructor
  · rintro ⟨happ, hfirst, hport⟩
    exact ⟨⟨app, happ, by simpa using hfirst⟩, hport⟩
  · rintro ⟨⟨app', happ, hfirst⟩, hport⟩
    obtain ⟨ingress', hfirst, heq⟩ := Option.map_eq_some_iff.1 hfirst
    cases heq
    exact ⟨happ, hfirst, hport⟩

theorem Protection.eligible_iff (p : Protection) (found : Application × Ingress) :
    p.Eligible found ↔ Build.eligible? p = some found :=
  (p.eligible_iff_ingress? found).trans (p.eligible?_eq_some_iff found).symm

namespace Build

/-- The listener port of what is kept. -/
def port (found : Application × Ingress) : UInt16 := found.2.proxyListenerPort

/-- The names of the applications that are built, in order. -/
def names (ps : List Protection) : List String := (kept ps).map fun found => found.1.name

theorem keptFrom_cons_of_none {p : Protection} (h : eligible? p = none) (taken : List UInt16)
    (ps : List Protection) : keptFrom taken (p :: ps) = keptFrom taken ps := by
  rw [keptFrom, h]

theorem keptFrom_cons_of_taken {p : Protection} {found : Application × Ingress}
    (h : eligible? p = some found) {taken : List UInt16} (ht : port found ∈ taken)
    (ps : List Protection) : keptFrom taken (p :: ps) = keptFrom taken ps := by
  rw [keptFrom, h]
  exact if_pos ht

theorem keptFrom_cons_of_free {p : Protection} {found : Application × Ingress}
    (h : eligible? p = some found) {taken : List UInt16} (ht : port found ∉ taken)
    (ps : List Protection) :
    keptFrom taken (p :: ps) = found :: keptFrom (port found :: taken) ps := by
  rw [keptFrom, h]
  exact if_neg ht

/-- The ports of what is kept are distinct, and none of them was taken before. -/
theorem keptFrom_ports_fresh (taken : List UInt16) (ps : List Protection) :
    Fresh taken ((keptFrom taken ps).map port) := by
  induction ps generalizing taken with
  | nil => exact Fresh.nil_right taken
  | cons p ps ih =>
      cases h : eligible? p with
      | none =>
          rw [keptFrom_cons_of_none h]
          exact ih taken
      | some found =>
          by_cases ht : port found ∈ taken
          · rw [keptFrom_cons_of_taken h ht]
            exact ih taken
          · rw [keptFrom_cons_of_free h ht, List.map_cons, Fresh.cons_iff]
            exact ⟨ht, ih (port found :: taken)⟩

theorem kept_ports_nodup (ps : List Protection) : ((kept ps).map port).Nodup :=
  (Fresh.nil_left_iff _).1 (keptFrom_ports_fresh [] ps)

/-- On a port that is not taken yet, the first eligible protection is kept. -/
theorem find?_keptFrom {taken : List UInt16} {n : UInt16} (hn : n ∉ taken)
    (ps : List Protection) :
    (keptFrom taken ps).find? (fun found => port found == n) =
      (ps.filterMap eligible?).find? fun found => port found == n := by
  induction ps generalizing taken with
  | nil => rfl
  | cons p ps ih =>
      cases h : eligible? p with
      | none => rw [keptFrom_cons_of_none h, List.filterMap_cons_none h, ih hn]
      | some found =>
          rw [List.filterMap_cons_some h, List.find?_cons]
          by_cases ht : port found ∈ taken
          · have hne : (port found == n) = false := by
              rw [beq_eq_false_iff_ne]
              exact fun he => hn (he ▸ ht)
            rw [keptFrom_cons_of_taken h ht, hne, ih hn]
          · rw [keptFrom_cons_of_free h ht, List.find?_cons]
            cases hp : port found == n with
            | true => rfl
            | false =>
                refine ih fun hm => ?_
                rcases List.mem_cons.1 hm with rfl | hm
                · simp at hp
                · exact hn hm

theorem find?_kept (n : UInt16) (ps : List Protection) :
    (kept ps).find? (fun found => port found == n) =
      (ps.filterMap eligible?).find? fun found => port found == n :=
  find?_keptFrom List.not_mem_nil ps

end Build

/-- A protection that is on, as is its engine, for an application behind one ingress. -/
def Protection.guarding (name host : String) (port : UInt16) : Protection :=
  { mode := .on
    modSec := some { mode := .on }
    application := some
      { name
        ingresses := [{ upstreamHost := host, proxyListenerPort := port }] } }

/-- All requests of a route configuration that is built go to its application's cluster. -/
theorem Build.mem_routes_routeConfig_iff (app : Application) (ingress : Ingress) (r : Route) :
    r ∈ (Build.routeConfig app ingress).routes ↔
      r = { name := app.name, pathPrefix := "/", cluster := app.name } := by
  simp [Build.routeConfig, RouteConfig.routes]

/-! ### The lists of a build -/

section Lists

variable (config : GatewayConfig) (ps : List Protection)

theorem map_name_clusters_build :
    (build config ps).clusters.map Cluster.name = Build.names ps := by
  simp [build, Build.names, Build.cluster]

theorem map_name_routes_build :
    (build config ps).routes.map RouteConfig.name = Build.names ps := by
  simp [build, Build.names, Build.routeConfig]

theorem map_name_listeners_build :
    (build config ps).listeners.map Listener.name = Build.names ps := by
  simp [build, Build.names, Build.listener]

theorem map_port_listeners_build :
    (build config ps).listeners.map Listener.port = (Build.kept ps).map Build.port := by
  simp [build, Build.port, Build.listener]

/-- A listener of a build refers to a route configuration of the build. -/
theorem routeConfig_mem_build {l : Listener} (h : l ∈ (build config ps).listeners) :
    l.routeConfig ∈ Build.names ps := by
  obtain ⟨found, hf, rfl⟩ := List.mem_map.1 h
  exact List.mem_map.2 ⟨found, hf, rfl⟩

/-- A route of a build refers to a cluster of the build. -/
theorem cluster_mem_build {rc : RouteConfig} (h : rc ∈ (build config ps).routes) {r : Route}
    (hr : r ∈ rc.routes) : r.cluster ∈ Build.names ps := by
  obtain ⟨found, hf, rfl⟩ := List.mem_map.1 h
  rw [(Build.mem_routes_routeConfig_iff _ _ r).1 hr]
  exact List.mem_map.2 ⟨found, hf, rfl⟩

end Lists

end WafControl
