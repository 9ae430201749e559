import WafControl.Proofs.Consistency

/-!
# What the check of resources says

The check of resources is exact: it finds no fault precisely in resources that fit together
(`Resources.Fitting`), and a fault that it names is there to see (`Inconsistency.ShownBy`). It goes
through each list once and names the first fault that it meets, so what is shown of a fault is said
of the entries passed so far and the one at hand.
-/

namespace WafControl

namespace Resources

/-- Names and ports are their owners' own, and every reference leads somewhere. -/
structure Fitting (r : Resources) : Prop where
  clusterNames : (r.clusters.map Cluster.name).Nodup
  routeConfigNames : (r.routes.map RouteConfig.name).Nodup
  clusters : ∀ rc ∈ r.routes, ∀ vh ∈ rc.virtualHosts, ∀ x ∈ vh.routes,
    ∃ c ∈ r.clusters, c.name = x.cluster
  listenerNames : (r.listeners.map Listener.name).Nodup
  ports : (r.listeners.map Listener.port).Nodup
  routeConfigs : ∀ l ∈ r.listeners, ∃ rc ∈ r.routes, rc.name = l.routeConfig

/-- The names of the resources of a kind, in order. -/
def names (r : Resources) : ResourceKind → List String
  | .cluster => r.clusters.map Cluster.name
  | .routeConfig => r.routes.map RouteConfig.name
  | .listener => r.listeners.map Listener.name

end Resources

/-- The fault can be seen in the resources. -/
def Inconsistency.ShownBy (r : Resources) : Inconsistency → Prop
  | duplicate kind name => List.Duplicate name (r.names kind)
  | unknownCluster route cluster =>
    (∃ rc ∈ r.routes, ∃ vh ∈ rc.virtualHosts, ∃ x ∈ vh.routes,
      x.name = route ∧ x.cluster = cluster) ∧ ∀ c ∈ r.clusters, c.name ≠ cluster
  | unknownRouteConfig listener routeConfig =>
    (∃ l ∈ r.listeners, l.name = listener ∧ l.routeConfig = routeConfig) ∧
      ∀ rc ∈ r.routes, rc.name ≠ routeConfig
  | portConflict first second port =>
    first ≠ second ∧ ∃ l m, List.Sublist [l, m] r.listeners ∧ l.name = first ∧ m.name = second ∧
      l.port = port ∧ m.port = port

namespace Resources

theorem consistent_iff_fitting (r : Resources) : r.consistent = true ↔ r.Fitting := by
  rw [consistent, Option.isNone_iff_eq_none, fault?_eq_none_iff]
  simp only [List.mem_map, RouteConfig.routes, List.mem_flatMap]
  constructor
  · rintro ⟨hc, ⟨hr, htargets⟩, hl, hp, hreferences⟩
    exact ⟨hc, hr, fun rc hrc vh hvh x hx => htargets rc hrc x ⟨vh, hvh, hx⟩, hl, hp, hreferences⟩
  · rintro ⟨hc, hr, htargets, hl, hp, hreferences⟩
    exact ⟨hc, ⟨hr, fun rc hrc x ⟨vh, hvh, hx⟩ => htargets rc hrc vh hvh x hx⟩, hl, hp, hreferences⟩

/-- An entry of a list stands twice if it comes again. -/
theorem duplicate_of_mem {α : Type} {x : α} {front : List α} (h : x ∈ front) (back : List α) :
    List.Duplicate x (front ++ x :: back) := by
  rw [List.duplicate_iff_sublist]
  exact (List.singleton_sublist.2 h).append (List.singleton_sublist.2 List.mem_cons_self)

theorem shownBy_of_firstRepeated {r : Resources} {name : String}
    (h : firstRepeated [] (r.clusters.map Cluster.name) = some name) :
    (Inconsistency.duplicate .cluster name).ShownBy r :=
  (duplicate_of_firstRepeated h).2.resolve_left List.not_mem_nil

theorem mem_of_firstUnresolved {clusters : List String} {routes : List Route} {x : Route}
    (h : firstUnresolved clusters routes = some x) : x ∈ routes ∧ x.cluster ∉ clusters := by
  have hx := List.find?_some h
  exact ⟨List.mem_of_find?_eq_some h, of_decide_eq_true hx⟩

/-- The route configurations before the one at fault have been passed. -/
theorem shownBy_of_routeFault {r : Resources} (front rcs : List RouteConfig)
    (hr : r.routes = front ++ rcs) {fault : Inconsistency}
    (h : routeFault (r.clusters.map Cluster.name) (front.map RouteConfig.name).reverse rcs =
      some fault) : fault.ShownBy r := by
  induction rcs generalizing front with
  | nil => cases h
  | cons rc rcs ih =>
      rw [routeFault] at h
      split at h
      · rename_i hseen
        cases h
        rw [Inconsistency.ShownBy, names, hr, List.map_append, List.map_cons]
        exact duplicate_of_mem (List.mem_reverse.1 hseen) _
      · split at h
        · rename_i x hx
          cases h
          obtain ⟨hmem, hunresolved⟩ := mem_of_firstUnresolved hx
          obtain ⟨vh, hvh, hxvh⟩ := List.mem_flatMap.1 hmem
          refine ⟨⟨rc, by simp [hr], vh, hvh, x, hxvh, rfl, rfl⟩, fun c hc hname => ?_⟩
          exact hunresolved (List.mem_map.2 ⟨c, hc, hname⟩)
        · refine ih (front ++ [rc]) (by simp [hr]) ?_
          simpa using h

/-- The listeners before the one at fault have been passed. -/
theorem shownBy_of_listenerFault {r : Resources} (front ls : List Listener)
    (hr : r.listeners = front ++ ls) {fault : Inconsistency}
    (h : listenerFault (r.routes.map RouteConfig.name) front.reverse ls = some fault) :
    fault.ShownBy r := by
  induction ls generalizing front with
  | nil => cases h
  | cons l ls ih =>
      rw [listenerFault] at h
      split at h
      · rename_i hseen
        cases h
        rw [List.map_reverse, List.mem_reverse] at hseen
        rw [Inconsistency.ShownBy, names, hr, List.map_append, List.map_cons]
        exact duplicate_of_mem hseen _
      · rename_i hnew
        split at h
        · rename_i m hm
          cases h
          have hfront : m ∈ front := List.mem_reverse.1 (List.mem_of_find?_eq_some hm)
          have hport := List.find?_some hm
          refine ⟨fun hname => hnew ?_, m, l, ?_, rfl, rfl, eq_of_beq hport, rfl⟩
          · exact List.mem_map.2 ⟨m, List.mem_reverse.2 hfront, hname⟩
          · rw [hr]
            exact (List.singleton_sublist.2 hfront).append
              (List.singleton_sublist.2 List.mem_cons_self)
        · split at h
          · exact ih (front ++ [l]) (by simp [hr]) (by simpa using h)
          · rename_i hunresolved
            cases h
            refine ⟨⟨l, by simp [hr], rfl, rfl⟩, fun rc hrc hname => hunresolved ?_⟩
            exact List.mem_map.2 ⟨rc, hrc, hname⟩

/-- Resources are found consistent exactly if they fit together, and a fault that is reported is one
that they have. -/
theorem check_exact (r : Resources) :
    (r.consistent = true ↔ r.Fitting) ∧ ∀ fault, r.fault? = some fault → fault.ShownBy r := by
  refine ⟨r.consistent_iff_fitting, fun fault h => ?_⟩
  rw [fault?] at h
  split at h
  · rename_i name hname
    cases h
    exact shownBy_of_firstRepeated hname
  · split at h
    · rename_i hroute
      cases h
      exact shownBy_of_routeFault [] r.routes rfl hroute
    · exact shownBy_of_listenerFault [] r.listeners rfl h

/-- Three listeners, the last of which binds the port of the first. -/
def crowded : Resources where
  listeners := [⟨"shop", 31000, "web", none⟩, ⟨"cart", 31001, "web", none⟩,
    ⟨"blog", 31000, "web", none⟩]
  clusters := [⟨"shop", "shop.blue.svc", 8080, .zero⟩]
  routes := [⟨"web", [⟨"web", ["*"], [⟨"all", "/", "shop", .zero⟩]⟩]⟩]

theorem crowded_check_exact :
    (Inconsistency.portConflict "shop" "blog" 31000).ShownBy crowded ∧
      Fitting { crowded with listeners := crowded.listeners.take 2 } :=
  ⟨(check_exact crowded).2 _ (by decide), (check_exact _).1.1 (by decide)⟩

end Resources

end WafControl
