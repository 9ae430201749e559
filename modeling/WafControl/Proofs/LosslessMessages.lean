import WafControl.Proofs.MessageReading
import WafControl.Proofs.Pointwise

/-!
# Messages lose nothing

A resource can be read back from its message, and so no two resources have one message
(`messages_lossless`). Fields that are left out read as the defaults that they had, and lists keep
their order. The one exception are durations: their seconds are written as a signed number, so that
those of 2⁶³ seconds and more come out negative and are not read (`readDuration?_duration`).
-/

namespace WafControl

namespace Envoy

open Protobuf

/-! ### Durations -/

theorem signedSeconds_of_lt {seconds : Nat} (h : seconds < Nat.pow 2 63) :
    signedSeconds seconds = seconds :=
  if_pos h

theorem signedSeconds_neg (d : Duration) (h : ¬d.seconds < Nat.pow 2 63) :
    signedSeconds d.seconds < 0 := by
  have hlt : d.seconds < UInt64.size := by
    rw [Duration.seconds, Nat.div_lt_iff_lt_mul (by decide)]
    exact d.nanos_lt
  have hsize : ¬d.seconds < UInt64.size / 2 := h
  rw [signedSeconds, if_neg hsize]
  omega

theorem varint_duration (d : Duration) :
    varint 1 (duration d) = signedSeconds d.seconds ∧ varint 2 (duration d) = d.subNanos := by
  have hfirst : varint 1 (optVarint 2 (d.subNanos : Int)) = 0 := by
    simpa [varint] using varint_optVarint_append_of_ne (k := 1) (j := 2) (by decide) d.subNanos []
  refine ⟨varint_optVarint_append _ hfirst, ?_⟩
  rw [duration, varint_optVarint_append_of_ne (by decide)]
  simpa using varint_optVarint_append (k := 2) (d.subNanos : Int) (m := []) rfl

/-- A duration is read back unless its seconds take the sign bit. -/
theorem readDuration?_duration (d : Duration) :
    readDuration? (duration d) = if d.seconds < Nat.pow 2 63 then some d else none := by
  obtain ⟨hseconds, hnanos⟩ := varint_duration d
  rw [readDuration?, hseconds, hnanos]
  by_cases h : d.seconds < Nat.pow 2 63
  · rw [signedSeconds_of_lt h, if_pos h]
    simpa using d.ofParts?_parts
  · have hneg := signedSeconds_neg d h
    rw [if_neg h, if_neg fun hnonneg => absurd hnonneg.1 (Int.not_le.2 hneg)]

/-! ### Clusters and route configurations -/

theorem readCluster?_cluster (c : Cluster) (h : c.connectTimeout.seconds < Nat.pow 2 63) :
    readCluster? (cluster c) = some c := by
  have hname : text 1 (cluster c) = c.name := text_optText_append c.name rfl
  have htimeout : message 4 (cluster c) = duration c.connectTimeout := by
    rw [cluster, message_optText_append]
    rfl
  have hassignment : message 33 (cluster c) = loadAssignment c := by
    rw [cluster, message_optText_append]
    rfl
  have hendpoint : message 1 (message 1 (message 2 (message 2 (loadAssignment c)))) =
      tcpAddress c.host c.port := by
    rw [loadAssignment, message_optText_append]
    rfl
  simp only [readCluster?, htimeout, readDuration?_duration, if_pos h, hname, hassignment,
    hendpoint, readAddress_tcpAddress]
  rfl

theorem readRoute?_route (r : Route) (h : r.timeout.seconds < Nat.pow 2 63) :
    readRoute? (route r) = some r := by
  have hname : text 14 (route r) = r.name := text_optText r.name
  have htimeout : message 8 (message 2 (route r)) = duration r.timeout := rfl
  rw [readRoute?, htimeout, readDuration?_duration, if_pos h, hname]
  rfl

theorem readVirtualHost?_virtualHost (vh : VirtualHost)
    (h : ∀ r ∈ vh.routes, r.timeout.seconds < Nat.pow 2 63) :
    readVirtualHost? (virtualHost vh) = some vh := by
  have hname : text 1 (virtualHost vh) = vh.name := by
    refine (congrArg (text 1) (List.append_assoc _ _ _)).trans (text_optText_append vh.name ?_)
    rw [text_map_text_append_of_ne (by decide), text_map_message]
  have hdomains : texts 2 (virtualHost vh) = vh.domains := by
    rw [virtualHost, List.append_assoc, texts_optText_append_of_ne (by decide),
      texts_map_text_append, texts_map_message, List.append_nil]
  rw [readVirtualHost?, messages_virtualHost,
    mapM_map_eq_some fun r hr => readRoute?_route r (h r hr), hname, hdomains]
  rfl

theorem readRouteConfig?_routeConfig (rc : RouteConfig)
    (h : ∀ vh ∈ rc.virtualHosts, ∀ r ∈ vh.routes, r.timeout.seconds < Nat.pow 2 63) :
    readRouteConfig? (routeConfig rc) = some rc := by
  have hname : text 1 (routeConfig rc) = rc.name := resourceName_routeConfig rc
  rw [readRouteConfig?, messages_routeConfig, hname,
    mapM_map_eq_some fun vh hvh => readVirtualHost?_virtualHost vh (h vh hvh)]
  rfl

/-! ### Filters -/

/-- The HTTP filters in a listener's message, in the order in which they run. -/
def filters (m : Message) : List Message := messages 5 (manager m)

theorem filters_listener (l : Listener) :
    filters (listener l) = (l.waf.map wafFilter).toList ++ [routerFilter] := by
  rw [filters, manager_listener, messages_connectionManager, httpFilters]

theorem map_text_wafFilter (waf : Option WafSettings) :
    (waf.map wafFilter).toList.map (text 1) = if waf.isSome then [wafFilterName] else [] := by
  cases waf with
  | none => rfl
  | some waf => exact congrArg (fun name => [name]) (text_typedConfig _ _ _)

end Envoy

/-! ### Resources -/

open Protobuf Envoy

namespace Discovery.Resource

/-- The durations of a resource have fewer than 2⁶³ seconds. -/
def Timely : Resource → Prop
  | listener _ => True
  | cluster c => c.connectTimeout.seconds < Nat.pow 2 63
  | route rc => ∀ vh ∈ rc.virtualHosts, ∀ r ∈ vh.routes, r.timeout.seconds < Nat.pow 2 63

/-- The resource that a message is for. Only a cluster has a number in its second field, and only a
listener a message in its third. -/
def read? (m : Message) : Option Resource :=
  if varint 2 m ≠ 0 then (readCluster? m).map cluster
  else if (message? 3 m).isSome then some (listener (readListener m))
  else (readRouteConfig? m).map route

theorem read?_message {x : Resource} (hx : x.Timely) : read? x.message = some x := by
  cases x with
  | listener l =>
      have hnumber : varint 2 (Envoy.listener l) = 0 := by
        rw [Envoy.listener, varint_optText_append]
        rfl
      have hchain : (message? 3 (Envoy.listener l)).isSome = true := by
        rw [Envoy.listener, message?_optText_append]
        rfl
      rw [message, read?, if_neg (not_not.2 hnumber), if_pos hchain, readListener_listener]
  | cluster c =>
      have hnumber : varint 2 (Envoy.cluster c) ≠ 0 := by
        rw [Envoy.cluster, varint_optText_append]
        exact Int.one_ne_zero
      rw [message, read?, if_pos hnumber, readCluster?_cluster c hx, Option.map_some]
  | route rc =>
      have hnumber : varint 2 (Envoy.routeConfig rc) = 0 := by
        rw [Envoy.routeConfig, varint_optText_append, varint_map_message]
      have hchain : (message? 3 (Envoy.routeConfig rc)).isSome ≠ true := by
        rw [Envoy.routeConfig, message?_optText_append, message?_map_message_of_ne (by decide)]
        decide
      rw [message, read?, if_neg (not_not.2 hnumber), if_neg hchain,
        readRouteConfig?_routeConfig rc hx, Option.map_some]

theorem message_inj {x y : Resource} (hx : x.Timely) (hy : y.Timely)
    (h : x.message = y.message) : x = y := by
  have hread := congrArg read? h
  rw [read?_message hx, read?_message hy] at hread
  exact Option.some.inj hread

end Discovery.Resource

/-- A resource is read back from its message as it was, with its lists in order, as long as its
durations have fewer than 2⁶³ seconds; so resources with one message are one resource. The HTTP
filters of a listener end with the router, which is not among those before, and before it stands
the WAF filter just if the listener has settings for one. -/
theorem messages_lossless :
    (∀ l : Listener, readListener (listener l) = l) ∧
      (∀ c : Cluster, c.connectTimeout.seconds < Nat.pow 2 63 → readCluster? (cluster c) = some c) ∧
      (∀ rc : RouteConfig,
        (∀ vh ∈ rc.virtualHosts, ∀ r ∈ vh.routes, r.timeout.seconds < Nat.pow 2 63) →
          readRouteConfig? (routeConfig rc) = some rc) ∧
      (∀ x y : Discovery.Resource, x.Timely → y.Timely → x.message = y.message → x = y) ∧
      ∀ l : Listener, ∃ front, filters (listener l) = front ++ [routerFilter] ∧
        routerFilterName ∉ front.map (text 1) ∧ text 1 routerFilter = routerFilterName ∧
        front.map (text 1) = if l.waf.isSome then [wafFilterName] else [] := by
  refine ⟨readListener_listener, readCluster?_cluster, readRouteConfig?_routeConfig,
    fun x y => Discovery.Resource.message_inj, fun l => ?_⟩
  have hnames := map_text_wafFilter l.waf
  refine ⟨(l.waf.map wafFilter).toList, filters_listener l, ?_, text_typedConfig _ _ _, hnames⟩
  rw [hnames]
  split <;> decide

/-- A cluster of which only the host and the longest time a message can hold are set. -/
def bareCluster : Cluster where
  host := "shop.blue.svc"
  connectTimeout := .ofSeconds 9223372036854775807

/-- Two hosts, the second without domains and routes. -/
def unevenHosts : RouteConfig where
  name := "web"
  virtualHosts := [
    { domains := ["shop.example.com", "", "*"]
      routes := [⟨"all", "/", "shop", .zero⟩, ⟨"", "", "", .ofMillis 1500⟩] },
    { name := "idle" }]

theorem sparse_messages_lossless :
    readCluster? (cluster bareCluster) = some bareCluster ∧
      readRouteConfig? (routeConfig unevenHosts) = some unevenHosts ∧
      cluster { bareCluster with port := 1 } ≠ cluster bareCluster := by
  obtain ⟨-, hcluster, hroutes, hinj, -⟩ := messages_lossless
  refine ⟨hcluster bareCluster (by decide), hroutes unevenHosts (by decide), fun h => ?_⟩
  cases hinj (.cluster { bareCluster with port := 1 }) (.cluster bareCluster)
    (by decide : bareCluster.connectTimeout.seconds < Nat.pow 2 63)
    (by decide : bareCluster.connectTimeout.seconds < Nat.pow 2 63) h

end WafControl
