import WafControl.Forwarding.StartRequest
import WafControl.Proofs.ServedPorts

/-!
# Are the starts that the router asks for accepted?

A call for a present relay is carried to the relay as a start request, field by field. The relay
refuses a request without a gateway or with a port that is zero. The router sees to the gateway port
(`intent_eq_present_iff`), and its gateway and relay port are configured; the port of the
application is the first one of the slice that fits 16 bits, which may be zero. Then the relay
refuses the start.
-/

namespace WafControl

/-- The relay accepts the options as they are. -/
def RelayOptions.Accepted (o : RelayOptions) : Prop := ofRequest (some o.toRequest) = .ok o

theorem RelayOptions.ofRequest_toRequest_of_zero {o : RelayOptions} (hf : o.gatewayFqdn ≠ "")
    (hg : o.gatewayPort ≠ 0) (ha : o.appPort = 0) :
    ofRequest (some o.toRequest) = .error (.invalidPort .app 0) := by
  simp only [ofRequest, toRequest, hf, if_false, check_toUInt32 _ _ hg, ha]
  rfl

namespace Router

variable {r : Router} {slice : EndpointSlice} {ps : List Protection} {pod : PodRef}
  {options : RelayOptions}

/-- Of the ports in a call for a present relay, the router checks the gateway port alone. -/
theorem ports_of_present (h : ⟨pod, .present options⟩ ∈ r.calls slice ps) :
    options.gatewayFqdn = r.gatewayFqdn ∧ options.relayPort = r.relayPort ∧
      options.gatewayPort ≠ 0 ∧ slice.tcpPort? = some options.appPort := by
  obtain ⟨p, -, -, found, -, h0, appPort, ht, rfl⟩ :=
    (intent_eq_present_iff r slice ps options).1 (intent_of_mem_calls h)
  exact ⟨rfl, rfl, h0, ht⟩

theorem accepted_of_tcpPort? (hf : r.gatewayFqdn ≠ "") (hr : r.relayPort ≠ 0)
    (h : ⟨pod, .present options⟩ ∈ r.calls slice ps) (ht : slice.tcpPort? ≠ some 0) :
    options.Accepted := by
  obtain ⟨hgateway, hrelay, hg, happ⟩ := ports_of_present h
  have ha : options.appPort ≠ 0 := fun h0 => ht (happ.trans (congrArg some h0))
  exact options.ofRequest_toRequest (hgateway ▸ hf) hg ha (hrelay ▸ hr)

theorem refused_of_tcpPort? (hf : r.gatewayFqdn ≠ "")
    (h : ⟨pod, .present options⟩ ∈ r.calls slice ps) (ht : slice.tcpPort? = some 0) :
    RelayOptions.ofRequest (some options.toRequest) = .error (.invalidPort .app 0) := by
  obtain ⟨hgateway, -, hg, happ⟩ := ports_of_present h
  have ha : options.appPort = 0 := Option.some.inj (happ.symm.trans ht)
  exact RelayOptions.ofRequest_toRequest_of_zero (hgateway ▸ hf) hg ha

theorem accepted_iff (hf : r.gatewayFqdn ≠ "") (hr : r.relayPort ≠ 0)
    (h : ⟨pod, .present options⟩ ∈ r.calls slice ps) :
    options.Accepted ↔ slice.tcpPort? ≠ some 0 := by
  refine ⟨fun ha ht => ?_, accepted_of_tcpPort? hf hr h⟩
  rw [RelayOptions.Accepted, refused_of_tcpPort? hf h ht] at ha
  cases ha

/-- A start that the router asks for is accepted, with the options it was asked for, unless the
first TCP port of the slice is zero. -/
theorem starts_accepted_iff (r : Router) (hf : r.gatewayFqdn ≠ "") (hr : r.relayPort ≠ 0)
    (slice : EndpointSlice) :
    (∀ ps pod options, ⟨pod, .present options⟩ ∈ r.calls slice ps →
      (options.Accepted ↔ slice.tcpPort? ≠ some 0)) ∧
    ∀ answer store pod options, ⟨pod, .present options⟩ ∈ r.callsMade answer slice store →
      (options.Accepted ↔ slice.tcpPort? ≠ some 0) := by
  refine ⟨fun ps pod options h => accepted_iff hf hr h, fun answer store pod options h => ?_⟩
  obtain ⟨fqdn, -, hc⟩ := exists_listing_of_mem_callsMade h
  exact accepted_iff hf hr hc

/-- Port 0 of the slice is passed over where it does not serve TCP. -/
theorem sample_start_accepted :
    let slice :=
      { sampleSlice with
        ports := [{ port := some 0, protocol := some "UDP" }, { port := some 8080 }] }
    ⟨⟨"blue", "shop-0"⟩, .present sampleOptions⟩ ∈
        sampleRouter.calls slice [Protection.guarding "shop" "shop.blue.svc" 31000] ∧
      sampleOptions.Accepted := by
  intro slice
  have hcall : ⟨⟨"blue", "shop-0"⟩, .present sampleOptions⟩ ∈
      sampleRouter.calls slice [Protection.guarding "shop" "shop.blue.svc" 31000] := by decide
  have hiff := (starts_accepted_iff sampleRouter (by decide) (by decide) slice).1 _ _ _ hcall
  exact ⟨hcall, hiff.2 (by decide)⟩

/-- A slice whose only port is zero. -/
theorem starts_not_always_accepted :
    ¬ ∀ pod options, ⟨pod, .present options⟩ ∈
        sampleRouter.callsMade (fun _ _ => .ok ())
          { sampleSlice with ports := [{ port := some 0 }] }
          { protections := [Protection.guarding "shop" "shop.blue.svc" 31000] } →
      options.Accepted := by
  intro h
  have haccepted := h ⟨"blue", "shop-0"⟩ { sampleOptions with appPort := 0 } (by decide)
  have hrefused := @RelayOptions.ofRequest_toRequest_of_zero { sampleOptions with appPort := 0 }
    (by decide) (by decide) rfl
  cases hrefused.symm.trans haccepted

end Router

end WafControl
