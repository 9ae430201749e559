import WafControl.Proofs.InOrder
import WafControl.Proofs.Kept

/-!
# What a build holds

A protection is eligible if its application has an ingress and the first one has a listener port.
It is kept if no eligible protection before it has the same port (`KeptAt`), whether that one is
kept or not: the ports that a listing takes are those of its eligible protections
(`keptFrom_append`). A build lists one listener, one cluster and one route configuration for each
protection that is kept, in the order of the protections (`build_lists_kept`).
-/

namespace WafControl

namespace Build

/-- What the protection at place `i` adds to a build: no eligible protection before it has its
port. -/
structure KeptAt (ps : List Protection) (i : Nat) (found : Application × Ingress) : Prop where
  eligible : ∃ p, ps[i]? = some p ∧ p.Eligible found
  free : ∀ j < i, ∀ q, ps[j]? = some q → ∀ other, q.Eligible other → port other ≠ port found

/-- The ports of the eligible protections. -/
def eligiblePorts (ps : List Protection) : List UInt16 := (ps.filterMap eligible?).map port

/-- What a protection adds to a build in which some ports are taken. -/
def admit? (taken : List UInt16) (p : Protection) : Option (Application × Ingress) :=
  (eligible? p).filter fun found => decide (port found ∉ taken)

theorem mem_eligiblePorts_iff {ps : List Protection} {n : UInt16} :
    n ∈ eligiblePorts ps ↔
      ∃ j < ps.length, ∃ q, ps[j]? = some q ∧ ∃ other, q.Eligible other ∧ port other = n := by
  simp only [eligiblePorts, List.mem_map, List.mem_filterMap, Protection.eligible_iff]
  constructor
  · rintro ⟨other, ⟨q, hq, hother⟩, hn⟩
    obtain ⟨j, hj, rfl⟩ := List.getElem_of_mem hq
    exact ⟨j, hj, _, List.getElem?_eq_getElem hj, other, hother, hn⟩
  · rintro ⟨j, -, q, hq, other, hother, hn⟩
    exact ⟨other, ⟨q, List.mem_of_getElem? hq, hother⟩, hn⟩

theorem admit?_eq_some_iff {taken : List UInt16} {p : Protection}
    {found : Application × Ingress} :
    admit? taken p = some found ↔ p.Eligible found ∧ port found ∉ taken := by
  rw [admit?, Option.filter_eq_some_iff, p.eligible_iff, decide_eq_true_iff]

/-- Only which ports are taken matters, not in which order. -/
theorem keptFrom_congr {taken taken' : List UInt16} (h : ∀ n, n ∈ taken ↔ n ∈ taken')
    (ps : List Protection) : keptFrom taken ps = keptFrom taken' ps := by
  induction ps generalizing taken taken' with
  | nil => rfl
  | cons p ps ih =>
      cases hp : eligible? p with
      | none => rw [keptFrom_cons_of_none hp, keptFrom_cons_of_none hp, ih h]
      | some found =>
          by_cases ht : port found ∈ taken
          · rw [keptFrom_cons_of_taken hp ht, keptFrom_cons_of_taken hp ((h _).1 ht), ih h]
          · rw [keptFrom_cons_of_free hp ht, keptFrom_cons_of_free hp fun hn => ht ((h _).2 hn)]
            refine congrArg (found :: ·) (ih fun n => ?_)
            rw [List.mem_cons, List.mem_cons, h]

/-- The ports that a front part takes are those of its eligible protections, kept or not. -/
theorem keptFrom_append (taken : List UInt16) (ps more : List Protection) :
    keptFrom taken (ps ++ more) =
      keptFrom taken ps ++ keptFrom (taken ++ eligiblePorts ps) more := by
  induction ps generalizing taken with
  | nil => simp [keptFrom, eligiblePorts]
  | cons p ps ih =>
      cases hp : eligible? p with
      | none =>
          rw [List.cons_append, keptFrom_cons_of_none hp, keptFrom_cons_of_none hp, ih,
            eligiblePorts, eligiblePorts, List.filterMap_cons_none hp]
      | some found =>
          have hports : eligiblePorts (p :: ps) = port found :: eligiblePorts ps := by
            rw [eligiblePorts, List.filterMap_cons_some hp, List.map_cons, eligiblePorts]
          by_cases ht : port found ∈ taken
          · -- what is not kept has a port that was taken before
            rw [List.cons_append, keptFrom_cons_of_taken hp ht, keptFrom_cons_of_taken hp ht, ih]
            refine congrArg (keptFrom taken ps ++ ·) (keptFrom_congr (fun n => ?_) more)
            rw [hports, List.mem_append, List.mem_append, List.mem_cons]
            refine ⟨Or.imp_right Or.inr, ?_⟩
            rintro (hn | rfl | hn)
            · exact Or.inl hn
            · exact Or.inl ht
            · exact Or.inr hn
          · rw [List.cons_append, keptFrom_cons_of_free hp ht, keptFrom_cons_of_free hp ht, ih,
              hports, List.cons_append]
            refine congrArg (fun rest => found :: (keptFrom (port found :: taken) ps ++ rest))
              (keptFrom_congr (fun n => ?_) more)
            simp only [List.mem_append, List.mem_cons]
            exact or_left_comm

theorem keptFrom_singleton (taken : List UInt16) (p : Protection) :
    keptFrom taken [p] = (admit? taken p).toList := by
  cases hp : eligible? p with
  | none => simp [keptFrom, admit?, hp]
  | some found =>
      by_cases ht : port found ∈ taken
      · rw [keptFrom_cons_of_taken hp ht]
        simp [keptFrom, admit?, hp, Option.filter, ht]
      · rw [keptFrom_cons_of_free hp ht]
        simp [keptFrom, admit?, hp, Option.filter, ht]

/-- The last protection is kept unless its port is taken by an eligible one. -/
theorem kept_concat (ps : List Protection) (p : Protection) :
    kept (ps ++ [p]) = kept ps ++ (admit? (eligiblePorts ps) p).toList := by
  rw [kept, keptFrom_append, keptFrom_singleton, List.nil_append, kept]

theorem KeptAt.lt_length {ps : List Protection} {i : Nat} {found : Application × Ingress}
    (h : KeptAt ps i found) : i < ps.length := by
  obtain ⟨p, hp, -⟩ := h.eligible
  exact (List.getElem?_eq_some_iff.1 hp).1

/-- A protection at the end adds itself where it is kept, and changes nothing before. -/
theorem keptAt_concat_iff (ps : List Protection) (p : Protection) (i : Nat)
    (found : Application × Ingress) :
    KeptAt (ps ++ [p]) i found ↔
      KeptAt ps i found ∨ i = ps.length ∧ admit? (eligiblePorts ps) p = some found := by
  -- before its end, the longer list is the shorter one
  have hbefore : ∀ j < ps.length, (ps ++ [p])[j]? = ps[j]? := fun j hj =>
    List.getElem?_append_left hj
  rw [admit?_eq_some_iff, mem_eligiblePorts_iff]
  constructor
  · rintro ⟨⟨q, hq, helig⟩, hfree⟩
    rcases (InOrder.getElem?_concat_iff ps p q i).1 hq with hq | ⟨rfl, rfl⟩
    · have hi := (List.getElem?_eq_some_iff.1 hq).1
      refine Or.inl ⟨⟨q, hq, helig⟩, fun j hj r hr => hfree j hj r ?_⟩
      rwa [hbefore j (Nat.lt_trans hj hi)]
    · refine Or.inr ⟨rfl, helig, ?_⟩
      rintro ⟨j, hj, r, hr, other, hother, hport⟩
      exact hfree j hj r ((hbefore j hj).trans hr) other hother hport
  · rintro (h | ⟨rfl, helig, hport⟩)
    · obtain ⟨q, hq, helig⟩ := h.eligible
      refine ⟨⟨q, (hbefore i h.lt_length).trans hq, helig⟩, fun j hj r hr => h.free j hj r ?_⟩
      rwa [← hbefore j (Nat.lt_trans hj h.lt_length)]
    · refine ⟨⟨p, List.getElem?_concat_length, helig⟩, ?_⟩
      intro j hj r hr other hother heq
      exact hport ⟨j, hj, r, (hbefore j hj).symm.trans hr, other, hother, heq⟩

/-- What is kept are the protections that no eligible one before them keeps from their port, in
order. -/
theorem inOrder_kept (ps : List Protection) : InOrder (KeptAt ps) (kept ps) := by
  induction ps using List.reverseRecOn with
  | nil =>
      refine InOrder.nil fun i found h => ?_
      exact absurd h.lt_length (Nat.not_lt_zero i)
  | append_singleton ps p ih =>
      rw [kept_concat]
      exact ih.concat (fun i found h => h.lt_length) (keptAt_concat_iff ps p)

/-- Further protections add to what is kept. -/
theorem kept_isPrefix (ps more : List Protection) : kept ps <+: kept (ps ++ more) :=
  ⟨keptFrom (eligiblePorts ps) more, (keptFrom_append [] ps more).symm⟩

end Build

/-- A build holds a listener, a cluster and a route configuration for each protection that is kept,
in order. No listener has port zero or the port of another, and further protections only add to a
build. -/
theorem build_lists_kept (config : GatewayConfig) (ps : List Protection) :
    let built := build config ps
    (∃ entries : List (Application × Ingress), InOrder (Build.KeptAt ps) entries ∧
      built.listeners = entries.map (fun found =>
        { name := found.1.name, port := found.2.proxyListenerPort,
          routeConfig := found.1.name, waf := config.waf }) ∧
      built.clusters = entries.map (fun found =>
        { name := found.1.name, host := found.2.upstreamHost, port := found.2.upstreamPort,
          connectTimeout := config.connectTimeout }) ∧
      built.routes = entries.map (fun found =>
        { name := found.1.name
          virtualHosts := [
            { name := found.1.name
              domains := [found.2.host]
              routes := [{ name := found.1.name, pathPrefix := "/", cluster := found.1.name,
                           timeout := .zero }] }] })) ∧
      built.clusters.length = built.listeners.length ∧
      built.routes.length = built.listeners.length ∧
      (∀ l ∈ built.listeners, l.port ≠ 0) ∧ (built.listeners.map Listener.port).Nodup ∧
      ∀ more, built.listeners <+: (build config (ps ++ more)).listeners ∧
        built.clusters <+: (build config (ps ++ more)).clusters ∧
        built.routes <+: (build config (ps ++ more)).routes := by
  intro built
  have hkept := Build.inOrder_kept ps
  refine ⟨⟨Build.kept ps, hkept, rfl, rfl, rfl⟩, ?_, ?_, ?_, ?_, fun more => ?_⟩
  · simp [built, build]
  · simp [built, build]
  · intro l hl
    obtain ⟨found, hf, rfl⟩ := List.mem_map.1 hl
    obtain ⟨i, hi⟩ := (hkept.mem_iff found).1 hf
    obtain ⟨p, -, -, -, hport⟩ := hi.eligible
    exact hport
  · rw [map_port_listeners_build]
    exact Build.kept_ports_nodup ps
  · have hmore := Build.kept_isPrefix ps more
    exact ⟨hmore.map _, hmore.map _, hmore.map _⟩

end WafControl
