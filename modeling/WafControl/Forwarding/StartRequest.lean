import WafControl.Relay.Instance
import WafControl.Rpc.Status

/-!
# Requests to start forwarding

A request carries its ports in 32 bits. It is accepted if it has options, names a gateway, and all
three ports are ports other than zero; the first fault in that order is reported. Options that a
controller sends in a request come back unchanged (`ofRequest_toRequest`).
-/

namespace WafControl

structure StartRequest where
  proxyFqdn : String := ""
  proxyListeningPort : UInt32 := 0
  appContainerPort : UInt32 := 0
  relayPort : UInt32 := 0
  deriving DecidableEq, Repr

inductive StartPort where
  | gateway
  | app
  | relay
  deriving DecidableEq, Repr

inductive StartFault where
  | missingOptions
  | missingGateway
  | invalidPort (which : StartPort) (value : UInt32)
  deriving DecidableEq, Repr

namespace StartPort

def label : StartPort → String
  | gateway => "proxy listening port"
  | app => "app container port"
  | relay => "relay port"

/-- The port that a value stands for. -/
def check (which : StartPort) (value : UInt32) : Except StartFault UInt16 :=
  if 0 < value.toNat ∧ value.toNat < 65536 then .ok value.toUInt16
  else .error (.invalidPort which value)

end StartPort

namespace StartFault

def message : StartFault → String
  | missingOptions => "missing relay options"
  | missingGateway => "missing proxy fqdn"
  | invalidPort which value => "invalid " ++ which.label ++ ": " ++ toString value.toNat

/-- The status that the request ends with. -/
def status (f : StartFault) : Status := ⟨.invalidArgument, f.message⟩

end StartFault

namespace RelayOptions

def ofRequest : Option StartRequest → Except StartFault RelayOptions
  | none => .error .missingOptions
  | some r =>
    if r.proxyFqdn = "" then .error .missingGateway
    else do
      let gatewayPort ← StartPort.gateway.check r.proxyListeningPort
      let appPort ← StartPort.app.check r.appContainerPort
      let relayPort ← StartPort.relay.check r.relayPort
      pure { gatewayFqdn := r.proxyFqdn, gatewayPort, appPort, relayPort }

def toRequest (o : RelayOptions) : StartRequest :=
  { proxyFqdn := o.gatewayFqdn
    proxyListeningPort := o.gatewayPort.toUInt32
    appContainerPort := o.appPort.toUInt32
    relayPort := o.relayPort.toUInt32 }

theorem check_toUInt32 (which : StartPort) (p : UInt16) (h : p ≠ 0) :
    which.check p.toUInt32 = .ok p := by
  have hlt := p.toNat_lt
  have hpos : 0 < p.toNat := Nat.pos_of_ne_zero fun h0 => h (UInt16.toNat_inj.1 (by simpa using h0))
  have hn : p.toUInt32.toNat = p.toNat := UInt16.toNat_toUInt32 p
  have hback : p.toUInt32.toUInt16 = p := by
    apply UInt16.toNat_inj.1
    simp
  unfold StartPort.check
  rw [if_pos (by omega), hback]

/-- Options with a gateway and ports other than zero survive the request. -/
theorem ofRequest_toRequest (o : RelayOptions) (hf : o.gatewayFqdn ≠ "") (hg : o.gatewayPort ≠ 0)
    (ha : o.appPort ≠ 0) (hr : o.relayPort ≠ 0) : ofRequest (some o.toRequest) = .ok o := by
  simp only [ofRequest, toRequest, hf, if_false, check_toUInt32 _ _ hg, check_toUInt32 _ _ ha,
    check_toUInt32 _ _ hr]
  rfl

theorem eq_of_check_toUInt32 {which : StartPort} {p p' : UInt16}
    (h : which.check p.toUInt32 = .ok p') : p' = p := by
  unfold StartPort.check at h
  split at h
  · cases h
    apply UInt16.toNat_inj.1
    simp
  · cases h

/-- A request that is accepted carries the options that it was made from. -/
theorem eq_of_ofRequest_toRequest {o o' : RelayOptions}
    (h : ofRequest (some o.toRequest) = .ok o') : o' = o := by
  simp only [ofRequest] at h
  split at h
  · cases h
  · cases hg : StartPort.gateway.check o.toRequest.proxyListeningPort with
    | error e =>
        rw [hg] at h
        cases h
    | ok gatewayPort =>
        cases ha : StartPort.app.check o.toRequest.appContainerPort with
        | error e =>
            rw [hg, ha] at h
            cases h
        | ok appPort =>
            cases hr : StartPort.relay.check o.toRequest.relayPort with
            | error e =>
                rw [hg, ha, hr] at h
                cases h
            | ok relayPort =>
                rw [hg, ha, hr] at h
                cases h
                have hgateway : gatewayPort = o.gatewayPort := eq_of_check_toUInt32 hg
                have happ : appPort = o.appPort := eq_of_check_toUInt32 ha
                have hrelay : relayPort = o.relayPort := eq_of_check_toUInt32 hr
                rw [hgateway, happ, hrelay]
                rfl

end RelayOptions

end WafControl
