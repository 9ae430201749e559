import WafControl.Relay.Router

/-!
# The calls that routing makes

Whatever becomes of a call, the router goes on to the next one. So the calls made for a slice do not
depend on the answers they get: `callsMade_of_listing` gives them from the slice and the listing of
its service alone, and `intent_eq_present_iff` says when they ask for a relay to be present.
-/

namespace WafControl

namespace Router

/-- A reconciler that answers a call from those before it, and remembers it. -/
def remembering (answer : List RelayCall → RelayCall → Except Failure Unit) :
    Reconciler (List RelayCall) :=
  fun c made => (answer made c, made ++ [c])

/-- The calls made when a slice is routed, in order. -/
def callsMade (r : Router) (answer : List RelayCall → RelayCall → Except Failure Unit)
    (slice : EndpointSlice) (store : Store) : List RelayCall :=
  (r.route (remembering answer) slice store []).2.2

/-- A router of node-1. -/
def sampleRouter : Router := ⟨"node-1", "gateway.waf.svc", 50010⟩

/-- A slice of the service `shop.blue.svc` with one pod on node-1. -/
def sampleSlice : EndpointSlice :=
  { name := some "shop-1"
    namespaceName := some "blue"
    owners := [{ kind := "Service", name := "shop" }]
    endpoints :=
      [{ nodeName := some "node-1", target := some { kind := some "Pod", name := some "shop-0" } }]
    ports := [{ port := some 8080 }] }

theorem dispatch_remembering (answer : List RelayCall → RelayCall → Except Failure Unit)
    (cs made : List RelayCall) : dispatch (remembering answer) cs made = made ++ cs := by
  induction cs generalizing made with
  | nil => exact (List.append_nil made).symm
  | cons c cs ih =>
      have hstep : dispatch (remembering answer) (c :: cs) made =
          dispatch (remembering answer) cs (made ++ [c]) := rfl
      rw [hstep, ih, List.append_assoc]
      rfl

theorem callsMade_of_none (r : Router)
    (answer : List RelayCall → RelayCall → Except Failure Unit) {slice : EndpointSlice}
    (h : slice.serviceFqdn? = none) (store : Store) : r.callsMade answer slice store = [] := by
  simp only [callsMade, route, decide?, h, dispatch_remembering, List.nil_append]

theorem callsMade_of_error (r : Router)
    (answer : List RelayCall → RelayCall → Except Failure Unit) {slice : EndpointSlice}
    {fqdn : String} (h : slice.serviceFqdn? = some fqdn) {store : Store} {e : String}
    (he : store.answerList (.upstream fqdn) = .error e) : r.callsMade answer slice store = [] := by
  simp only [callsMade, route, decide?, h, Store.list, he]

theorem callsMade_of_listing (r : Router)
    (answer : List RelayCall → RelayCall → Except Failure Unit) {slice : EndpointSlice}
    {fqdn : String} (h : slice.serviceFqdn? = some fqdn) {store : Store} {ps : List Protection}
    (hp : store.answerList (.upstream fqdn) = .ok ps) :
    r.callsMade answer slice store = r.calls slice ps := by
  simp only [callsMade, route, decide?, h, Store.list, hp, dispatch_remembering, List.nil_append]

/-- A call is made only for a slice of a service whose protections were listed. -/
theorem exists_listing_of_mem_callsMade {r : Router}
    {answer : List RelayCall → RelayCall → Except Failure Unit} {slice : EndpointSlice}
    {store : Store} {c : RelayCall} (h : c ∈ r.callsMade answer slice store) :
    ∃ fqdn, slice.serviceFqdn? = some fqdn ∧
      c ∈ r.calls slice ((Filter.upstream fqdn).select store.protections) := by
  cases hf : slice.serviceFqdn? with
  | none =>
      rw [r.callsMade_of_none answer hf] at h
      exact absurd h List.not_mem_nil
  | some fqdn =>
      refine ⟨fqdn, rfl, ?_⟩
      cases hl : store.listError with
      | some e =>
          have he : store.answerList (.upstream fqdn) = .error e := by
            rw [Store.answerList, hl]
          rw [r.callsMade_of_error answer hf he] at h
          exact absurd h List.not_mem_nil
      | none =>
          have hp : store.answerList (.upstream fqdn) =
              .ok ((Filter.upstream fqdn).select store.protections) := by
            rw [Store.answerList, hl]
          rwa [r.callsMade_of_listing answer hf hp] at h

/-- All calls for a slice carry what is intended for it. -/
theorem intent_of_mem_calls {r : Router} {slice : EndpointSlice} {ps : List Protection}
    {c : RelayCall} (h : c ∈ r.calls slice ps) : r.intent slice ps = some c.intent := by
  unfold calls at h
  cases hi : r.intent slice ps with
  | none =>
      rw [hi] at h
      exact absurd h List.not_mem_nil
  | some intent =>
      rw [hi] at h
      obtain ⟨pod, -, rfl⟩ := List.mem_map.1 h
      rfl

/-- A relay is to be present when the first protection listed is on, its port is allocated, and the
slice has a TCP port. The relay then forwards to the allocated port. -/
theorem intent_eq_present_iff (r : Router) (slice : EndpointSlice) (ps : List Protection)
    (options : RelayOptions) :
    r.intent slice ps = some (.present options) ↔
      ∃ p, ps.head? = some p ∧ p.mode = .on ∧
        ∃ found, p.ingress? = some found ∧ found.2.proxyListenerPort ≠ 0 ∧
          ∃ appPort, slice.tcpPort? = some appPort ∧
            options = ⟨r.gatewayFqdn, found.2.proxyListenerPort, appPort, r.relayPort⟩ := by
  cases ps with
  | nil => simp [intent]
  | cons p ps =>
      cases hm : p.mode with
      | unspecified => simp [intent, hm]
      | off => simp [intent, hm]
      | on =>
          cases hi : p.ingress? with
          | none => simp [intent, hm, hi]
          | some found =>
              obtain ⟨app, ingress⟩ := found
              by_cases h0 : ingress.proxyListenerPort = 0
              · simp [intent, hm, hi, h0]
              · cases ht : slice.tcpPort? with
                | none => simp [intent, hm, ht]
                | some appPort =>
                    have hp : r.intent slice (p :: ps) = some (.present
                        ⟨r.gatewayFqdn, ingress.proxyListenerPort, appPort, r.relayPort⟩) := by
                      simp [intent, hm, hi, h0, ht]
                    rw [hp]
                    constructor
                    · intro h
                      cases h
                      exact ⟨p, rfl, hm, (app, ingress), hi, h0, appPort, rfl, rfl⟩
                    · rintro ⟨q, hq, -, found, hf, -, port, hport, rfl⟩
                      cases hq
                      rw [hi] at hf
                      cases hf
                      cases hport
                      rfl

/-- Relays are to be absent when the first protection listed is off. -/
theorem intent_eq_absent_iff (r : Router) (slice : EndpointSlice) (ps : List Protection) :
    r.intent slice ps = some .absent ↔ ∃ p, ps.head? = some p ∧ p.mode = .off := by
  cases ps with
  | nil => simp [intent]
  | cons p ps =>
      cases hm : p.mode with
      | unspecified => simp [intent, hm]
      | off => simp [intent, hm]
      | on =>
          simp only [intent, hm, List.head?_cons, Option.bind_some, Option.bind_eq_bind]
          cases p.ingress? with
          | none => simp [hm]
          | some found =>
              by_cases h0 : found.2.proxyListenerPort = 0
              · simp [h0, hm]
              · cases slice.tcpPort? <;> simp [h0, hm]

end Router

end WafControl
