import WafControl.Proofs.MessageReading
import WafControl.Proofs.NamedFaults

/-!
# What a proxy asks for next

A proxy reads from the listeners it is sent which route configurations to ask for, and from those
which clusters it needs. With consistent resources it is sent each of them once, and nothing it did
not ask for (`requests_closed`). An empty list of names asks for all resources, so that nothing of
this is said where no listener is sent.
-/

namespace WafControl.Discovery

open Protobuf Envoy

/-- The messages of a type that a proxy is sent for the names it asks for. -/
def messagesFor (r : Resources) (t : ResourceType) (names : List String) : List Message :=
  (served r t names).map Resource.message

variable {r : Resources} {t : ResourceType} {names : List String} {m : Message} {n : String}

theorem wanted_iff (h : names ≠ []) : wanted names n = true ↔ n ∈ names := by
  simp [wanted, h]

theorem mem_messagesFor_iff :
    m ∈ messagesFor r t names ↔ ∃ x ∈ allOf r t, wanted names x.name = true ∧ x.message = m := by
  simp [messagesFor, served, and_assoc]

/-- The names that are sent are those of the type that are wanted, in order. -/
theorem map_resourceName (r : Resources) (t : ResourceType) (names : List String) :
    (messagesFor r t names).map resourceName =
      ((allOf r t).map Resource.name).filter (wanted names) := by
  rw [messagesFor, List.map_map, List.filter_map, served]
  exact List.map_congr_left fun x _ => resourceName_message x

/-- A resource that is wanted is sent once where no other has its name. -/
theorem count_resourceName (hd : ((allOf r t).map Resource.name).Nodup)
    (hn : n ∈ (allOf r t).map Resource.name) (hw : wanted names n = true) :
    ((messagesFor r t names).map resourceName).count n = 1 := by
  rw [map_resourceName]
  exact List.count_eq_one_of_mem (hd.filter _) (List.mem_filter.2 ⟨hn, hw⟩)

theorem map_name_allOf_cluster (r : Resources) :
    (allOf r .cluster).map Resource.name = r.clusters.map Cluster.name := by
  simp [allOf, Function.comp_def, Resource.name]

theorem map_name_allOf_route (r : Resources) :
    (allOf r .route).map Resource.name = r.routes.map RouteConfig.name := by
  simp [allOf, Function.comp_def, Resource.name]

theorem mem_messagesFor_listener_iff :
    m ∈ messagesFor r .listener names ↔
      ∃ l ∈ r.listeners, wanted names l.name = true ∧ listener l = m := by
  simp [mem_messagesFor_iff, allOf, Resource.name, Resource.message]

theorem mem_messagesFor_route_iff :
    m ∈ messagesFor r .route names ↔
      ∃ rc ∈ r.routes, wanted names rc.name = true ∧ routeConfig rc = m := by
  simp [mem_messagesFor_iff, allOf, Resource.name, Resource.message]

/-- The listeners that are sent are some of all listeners, in order. -/
theorem ports_sublist (r : Resources) (names : List String) :
    ((messagesFor r .listener names).map fun m => (readListener m).port).Sublist
      (r.listeners.map Listener.port) := by
  have hall : ((allOf r .listener).map fun x => (readListener x.message).port) =
      r.listeners.map Listener.port := by
    simp [allOf, Function.comp_def, Resource.message, readListener_listener]
  rw [← hall, messagesFor, List.map_map]
  exact List.filter_sublist.map _

/-- Consistent resources answer what a proxy asks for next. Where it is sent listeners for the names
it asks for, and then asks for the route configurations that those refer to, in any order and any
number of times, it is sent each of them once and no other. Each cluster that a route of them leads
to is sent once to a proxy that asks for all clusters. No two of the listeners bind one port. -/
theorem requests_closed (x : Snapshot) (hx : x.resources.consistent = true)
    (names asked : List String) (hne : messagesFor x.resources .listener names ≠ [])
    (hasked : ∀ n, n ∈ asked ↔
      ∃ m ∈ messagesFor x.resources .listener names, (readListener m).routeConfig = n) :
    (∀ n ∈ asked, ((messagesFor x.resources .route asked).map resourceName).count n = 1) ∧
      (∀ m ∈ messagesFor x.resources .route asked, resourceName m ∈ asked) ∧
      (∀ m ∈ messagesFor x.resources .route asked, ∀ c ∈ routedClusters m,
        ((messagesFor x.resources .cluster []).map resourceName).count c = 1) ∧
      ((messagesFor x.resources .listener names).map fun m => (readListener m).port).Nodup := by
  have hfit := (Resources.consistent_iff_fitting x.resources).1 hx
  have hsome : asked ≠ [] := by
    obtain ⟨m, hm⟩ := List.exists_mem_of_ne_nil _ hne
    exact List.ne_nil_of_mem ((hasked _).2 ⟨m, hm, rfl⟩)
  refine ⟨fun n hn => ?_, fun m hm => ?_, fun m hm c hc => ?_, ?_⟩
  · obtain ⟨m, hm, href⟩ := (hasked n).1 hn
    obtain ⟨l, hl, -, rfl⟩ := mem_messagesFor_listener_iff.1 hm
    rw [readListener_listener] at href
    obtain ⟨rc, hrc, hname⟩ := hfit.routeConfigs l hl
    refine count_resourceName ?_ ?_ ((wanted_iff hsome).2 hn)
    · rw [map_name_allOf_route]
      exact hfit.routeConfigNames
    · rw [map_name_allOf_route, List.mem_map]
      exact ⟨rc, hrc, hname.trans href⟩
  · obtain ⟨rc, -, hw, rfl⟩ := mem_messagesFor_route_iff.1 hm
    rw [resourceName_routeConfig]
    exact (wanted_iff hsome).1 hw
  · obtain ⟨rc, hrc, -, rfl⟩ := mem_messagesFor_route_iff.1 hm
    rw [routedClusters_routeConfig] at hc
    obtain ⟨y, hy, rfl⟩ := List.mem_map.1 hc
    obtain ⟨vh, hvh, hyvh⟩ := List.mem_flatMap.1 hy
    obtain ⟨cl, hcl, hname⟩ := hfit.clusters rc hrc vh hvh y hyvh
    refine count_resourceName ?_ ?_ rfl
    · rw [map_name_allOf_cluster]
      exact hfit.clusterNames
    · rw [map_name_allOf_cluster, List.mem_map]
      exact ⟨cl, hcl, hname⟩
  · exact (ports_sublist x.resources names).nodup hfit.ports

/-- Two listeners share a route configuration with two hosts. -/
def sharedSnapshot : Snapshot where
  version := "1"
  resources :=
    { listeners := [⟨"shop", 31000, "web", none⟩, ⟨"cart", 31001, "web", some .standard⟩,
        ⟨"blog", 31002, "blog", none⟩]
      clusters := [⟨"shop", "shop.blue.svc", 8080, .zero⟩, ⟨"cart", "cart.blue.svc", 8080, .zero⟩,
        ⟨"blog", "blog.blue.svc", 8080, .zero⟩]
      routes := [⟨"blog", [⟨"blog", ["*"], [⟨"all", "/", "blog", .zero⟩]⟩]⟩,
        ⟨"web", [⟨"shop", ["shop.example.com"], [⟨"all", "/", "shop", .zero⟩]⟩,
          ⟨"cart", ["cart.example.com"], [⟨"all", "/", "cart", .zero⟩]⟩]⟩] }

theorem sharedSnapshot_closed :
    let r := sharedSnapshot.resources
    let listeners := messagesFor r .listener ["cart", "shop"]
    listeners.map (fun m => (readListener m).routeConfig) = ["web", "web"] ∧
      ((messagesFor r .route ["web", "web"]).map resourceName).count "web" = 1 ∧
      (∀ m ∈ messagesFor r .route ["web", "web"], ∀ c ∈ routedClusters m,
        ((messagesFor r .cluster []).map resourceName).count c = 1) ∧
      (listeners.map fun m => (readListener m).port).Nodup := by
  intro r listeners
  have href : listeners.map (fun m => (readListener m).routeConfig) = ["web", "web"] := by decide
  have hasked : ∀ n, n ∈ ["web", "web"] ↔ ∃ m ∈ listeners, (readListener m).routeConfig = n := by
    intro n
    rw [← href, List.mem_map]
  have hne : listeners ≠ [] := by
    intro h
    rw [h] at href
    cases href
  obtain ⟨hroutes, -, hclusters, hports⟩ :=
    requests_closed sharedSnapshot (by decide) ["cart", "shop"] ["web", "web"] hne hasked
  exact ⟨href, hroutes "web" (by decide), hclusters, hports⟩

end WafControl.Discovery
