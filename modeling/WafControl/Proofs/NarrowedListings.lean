import WafControl.Policy.Wire
import WafControl.Proofs.Kept
import WafControl.Proofs.Pointwise

/-!
# Narrowed listings

The store's messages have wider numbers than the domain. What is read from a listing has all parts
of the message, in number and in order, with the same texts and ids (`Protection.NarrowedTo`). A
number is either kept or, where it does not fit, zero, so that no port is one that the message does
not have; and as zero is no listener port, an ingress whose port does not fit gets no listener
(`listing_narrowed`).
-/

namespace WafControl

namespace Wire

/-- The port is the number, or zero where the number needs more than 16 bits. -/
def PortOf (n : UInt32) (p : UInt16) : Prop := p.toNat = if n.toNat ≤ 65535 then n.toNat else 0

/-- The level is the number, or zero where the number does not fit 8 bits. -/
def LevelOf (n : Int) (l : UInt8) : Prop := (l.toNat : Int) = if 0 ≤ n ∧ n ≤ 255 then n else 0

def ModeOf (n : Int) (m : Mode) : Prop :=
  (m = .on ↔ n = 1) ∧ (m = .off ↔ n = 2) ∧ (m = .unspecified ↔ n ≠ 1 ∧ n ≠ 2)

structure ModSec.NarrowedTo (w : ModSec) (m : WafControl.ModSec) : Prop where
  mode : ModeOf w.protectionMode m.mode
  level : LevelOf w.paranoiaLevel m.paranoiaLevel

structure ContainerPort.NarrowedTo (w : ContainerPort) (p : WafControl.ContainerPort) : Prop where
  number : PortOf w.number p.number
  name : p.name = w.name
  proxyListenerPort : PortOf w.proxyListenerPort p.proxyListenerPort

structure Upstream.NarrowedTo (w : Upstream) (u : WafControl.Upstream) : Prop where
  svcFqdn : u.svcFqdn = w.svcFqdn
  containerIps : u.containerIps = w.containerIps
  containerPorts : List.Forall₂ ContainerPort.NarrowedTo w.containerPorts u.containerPorts
  routeType : u.routeType = w.routeType

structure Ingress.NarrowedTo (w : Ingress) (i : WafControl.Ingress) : Prop where
  name : i.name = w.name
  namespaceName : i.namespaceName = w.namespaceName
  host : i.host = w.host
  path : i.path = w.path
  port : PortOf w.port i.port
  upstreamHost : i.upstreamHost = w.upstreamHost
  upstreamPort : PortOf w.upstreamPort i.upstreamPort
  proxyListenerPort : PortOf w.proxyListenerPort i.proxyListenerPort
  upstream : Option.Rel Upstream.NarrowedTo w.upstream i.upstream

structure Application.NarrowedTo (w : Application) (a : WafControl.Application) : Prop where
  id : a.id = w.id
  name : a.name = w.name
  ingresses : List.Forall₂ Ingress.NarrowedTo w.ingresses a.ingresses

/-- The domain's protection says the same as the message. Of a desired state, the engine's settings
are all there is. -/
structure Protection.NarrowedTo (w : Protection) (p : WafControl.Protection) : Prop where
  id : p.id = w.id
  applicationId : p.applicationId = w.applicationId
  mode : ModeOf w.protectionMode p.mode
  modSec : Option.Rel ModSec.NarrowedTo (w.desiredState.bind DesiredState.modSec) p.modSec
  application : Option.Rel Application.NarrowedTo w.application p.application

/-! ### Narrowing -/

theorem portOf_port (n : UInt32) : PortOf n (port n) := by
  rw [PortOf, port]
  by_cases h : n.toNat < 65536
  · rw [if_pos h, if_pos (Nat.le_of_lt_succ h)]
    exact UInt16.toNat_ofNat_of_lt h
  · rw [if_neg h, if_neg (fun hle => h (Nat.lt_succ_of_le hle))]
    rfl

/-- A number that does not fit is not cut to its lowest 16 bits. -/
example : port 96536 = 0 := by decide

theorem levelOf_level (n : Int) : LevelOf n (level n) := by
  rw [LevelOf, level]
  by_cases h : 0 ≤ n ∧ n ≤ 255
  · have hlt : n.toNat < UInt8.size := (Int.toNat_lt h.1).2 (Int.lt_add_one_of_le h.2)
    rw [if_pos h, if_pos ⟨h.1, Int.lt_add_one_of_le h.2⟩, Nat.toUInt8,
      UInt8.toNat_ofNat_of_lt' hlt, Int.toNat_of_nonneg h.1]
  · rw [if_neg h, if_neg (fun h' => h ⟨h'.1, Int.le_of_lt_add_one h'.2⟩)]
    rfl

theorem modeOf_mode (n : Int) : ModeOf n (mode n) := by
  rw [ModeOf, mode]
  by_cases hon : n = 1
  · subst hon
    decide
  · by_cases hoff : n = 2
    · subst hoff
      decide
    · simp [hon, hoff]

theorem ModSec.narrowedTo (w : ModSec) : w.NarrowedTo w.narrow :=
  ⟨modeOf_mode _, levelOf_level _⟩

theorem ContainerPort.narrowedTo (w : ContainerPort) : w.NarrowedTo w.narrow :=
  ⟨portOf_port _, rfl, portOf_port _⟩

theorem Upstream.narrowedTo (w : Upstream) : w.NarrowedTo w.narrow :=
  ⟨rfl, rfl, forall₂_map_self ContainerPort.narrowedTo _, rfl⟩

theorem Ingress.narrowedTo (w : Ingress) : w.NarrowedTo w.narrow where
  name := rfl
  namespaceName := rfl
  host := rfl
  path := rfl
  port := portOf_port _
  upstreamHost := rfl
  upstreamPort := portOf_port _
  proxyListenerPort := portOf_port _
  upstream := rel_map_self Upstream.narrowedTo _

theorem Application.narrowedTo (w : Application) : w.NarrowedTo w.narrow :=
  ⟨rfl, rfl, forall₂_map_self Ingress.narrowedTo _⟩

theorem Protection.narrowedTo (w : Protection) : w.NarrowedTo w.narrow where
  id := rfl
  applicationId := rfl
  mode := modeOf_mode _
  modSec := rel_map_self ModSec.narrowedTo _
  application := rel_map_self Application.narrowedTo _

/-! ### Listeners and clusters -/

/-- The application of a protection and the ingress that fronts it. -/
def Protection.front? (w : Protection) : Option (Application × Ingress) :=
  w.application.bind fun app => app.ingresses.head?.map fun ingress => (app, ingress)

/-- An application and an ingress of it in the domain. -/
def narrowFront (front : Application × Ingress) : WafControl.Application × WafControl.Ingress :=
  (front.1.narrow, front.2.narrow)

theorem Protection.ingress?_narrow (w : Protection) :
    w.narrow.ingress? = w.front?.map narrowFront := by
  cases ha : w.application with
  | none => simp [Protection.narrow, WafControl.Protection.ingress?, front?, ha]
  | some app =>
      simp [Protection.narrow, WafControl.Protection.ingress?, front?, ha, Application.narrow,
        narrowFront, Function.comp_def]

theorem filterMap_ingress?_narrow (ws : List Protection) :
    (ws.map Protection.narrow).filterMap WafControl.Protection.ingress? =
      (ws.filterMap Protection.front?).map narrowFront := by
  rw [List.filterMap_map, List.map_filterMap]
  exact List.filterMap_congr fun w _ => w.ingress?_narrow

/-- A port that is not zero is the number on the wire. -/
theorem PortOf.toNat_eq {n : UInt32} {p : UInt16} (h : PortOf n p) (hp : p ≠ 0) :
    0 < n.toNat ∧ n.toNat ≤ 65535 ∧ p.toNat = n.toNat := by
  have hne : p.toNat ≠ 0 := fun h0 => hp (UInt16.toNat_inj.1 h0)
  rw [PortOf] at h
  split at h
  · exact ⟨by omega, by assumption, h⟩
  · exact absurd h hne

end Wire

namespace Build

/-- What is kept are first ingresses with a port, in the order of the protections. -/
theorem keptFrom_sublist (taken : List UInt16) (ps : List Protection) :
    (keptFrom taken ps).Sublist (ps.filterMap eligible?) := by
  induction ps generalizing taken with
  | nil => exact List.Sublist.slnil
  | cons p ps ih =>
      cases hp : eligible? p with
      | none =>
          rw [keptFrom_cons_of_none hp, List.filterMap_cons_none hp]
          exact ih taken
      | some found =>
          rw [List.filterMap_cons_some hp]
          by_cases ht : port found ∈ taken
          · rw [keptFrom_cons_of_taken hp ht]
            exact (ih taken).cons found
          · rw [keptFrom_cons_of_free hp ht]
            exact (ih _).cons_cons found

theorem kept_sublist (ps : List Protection) :
    (kept ps).Sublist (ps.filterMap Protection.ingress?) ∧
      ∀ found ∈ kept ps, found.2.proxyListenerPort ≠ 0 := by
  have heligible : ps.filterMap eligible? =
      (ps.filterMap Protection.ingress?).filter fun found => found.2.proxyListenerPort != 0 :=
    List.filter_filterMap.symm
  have hkept := keptFrom_sublist [] ps
  rw [heligible] at hkept
  refine ⟨hkept.trans List.filter_sublist, fun found hfound => ?_⟩
  simpa using (List.mem_filter.1 (hkept.subset hfound)).2

end Build

open Wire

/-- A listing is read without losing a part of it, and each number is kept or, where it does not
fit, zero. So of the first ingresses in a message, only some whose listener port is neither zero nor
above 65535 get a listener and a cluster. The listener has that port, and the cluster has the
upstream's, unless that does not fit. -/
theorem listing_narrowed (ws : List Wire.Protection) (config : GatewayConfig) :
    ∃ listed, (StoreReply.protections ws).listResult = .ok listed ∧
      List.Forall₂ Wire.Protection.NarrowedTo ws listed ∧
      ∃ fronts : List (Wire.Application × Wire.Ingress),
        fronts.Sublist (ws.filterMap Wire.Protection.front?) ∧
        (∀ e ∈ fronts,
          0 < e.2.proxyListenerPort.toNat ∧ e.2.proxyListenerPort.toNat ≤ 65535) ∧
        (build config listed).listeners.map (fun l => (l.name, l.port.toNat)) =
          fronts.map (fun e => (e.1.name, e.2.proxyListenerPort.toNat)) ∧
        (build config listed).clusters.map (fun c => (c.name, c.host, c.port.toNat)) =
          fronts.map fun e => (e.1.name, e.2.upstreamHost,
            if e.2.upstreamPort.toNat ≤ 65535 then e.2.upstreamPort.toNat else 0) := by
  refine ⟨ws.map Wire.Protection.narrow, rfl, forall₂_map_self Protection.narrowedTo ws, ?_⟩
  obtain ⟨hsub, hports⟩ := Build.kept_sublist (ws.map Wire.Protection.narrow)
  rw [filterMap_ingress?_narrow] at hsub
  obtain ⟨fronts, hfronts, hkept⟩ := List.sublist_map_iff.1 hsub
  have hport : ∀ e ∈ fronts, 0 < e.2.proxyListenerPort.toNat ∧
      e.2.proxyListenerPort.toNat ≤ 65535 ∧
      e.2.narrow.proxyListenerPort.toNat = e.2.proxyListenerPort.toNat := by
    intro e he
    refine e.2.narrowedTo.proxyListenerPort.toNat_eq (hports (narrowFront e) ?_)
    rw [hkept]
    exact List.mem_map_of_mem he
  refine ⟨fronts, hfronts, fun e he => ⟨(hport e he).1, (hport e he).2.1⟩, ?_, ?_⟩
  · rw [build, hkept, List.map_map, List.map_map]
    exact List.map_congr_left fun e he => congrArg (Prod.mk e.1.name) (hport e he).2.2
  · rw [build, hkept, List.map_map, List.map_map]
    exact List.map_congr_left fun e _ =>
      congrArg (fun n => (e.1.name, e.2.upstreamHost, n)) (portOf_port e.2.upstreamPort)

end WafControl
