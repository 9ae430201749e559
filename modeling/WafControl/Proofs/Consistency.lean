import Mathlib.Data.List.Duplicate
import WafControl.Gateway.Consistency

/-!
# When resources are consistent

The check of a bundle goes through its lists and carries the names seen so far. `Fresh seen xs` says
what such a pass asks of its list: no entry stands twice, and none was seen before. Each pass finds
no fault exactly when its names are fresh and its references lead to names of the bundle;
`fault?_eq_none_iff` puts the three passes together.
-/

namespace WafControl

/-- No entry of `xs` stands twice or is among `seen`. -/
def Fresh {α : Type} (seen xs : List α) : Prop := xs.Nodup ∧ ∀ x ∈ xs, x ∉ seen

namespace Fresh

variable {α : Type}

theorem nil_right (seen : List α) : Fresh seen [] := by
  simp [Fresh]

theorem nil_left_iff (xs : List α) : Fresh [] xs ↔ xs.Nodup := by
  simp [Fresh]

/-- The head of a fresh list counts as seen for the rest of it. -/
theorem cons_iff (seen : List α) (x : α) (xs : List α) :
    Fresh seen (x :: xs) ↔ x ∉ seen ∧ Fresh (x :: seen) xs := by
  simp only [Fresh, List.nodup_cons, List.forall_mem_cons]
  constructor
  · rintro ⟨⟨hx, hd⟩, hs, hr⟩
    refine ⟨hs, hd, fun y hy hm => ?_⟩
    rcases List.mem_cons.1 hm with rfl | hm
    · exact hx hy
    · exact hr y hy hm
  · rintro ⟨hs, hd, hr⟩
    refine ⟨⟨fun hx => hr x hx List.mem_cons_self, hd⟩, hs, fun y hy hm => ?_⟩
    exact hr y hy (List.mem_cons_of_mem x hm)

end Fresh

namespace Resources

theorem firstRepeated_cons_of_mem {seen : List String} {n : String} (h : n ∈ seen)
    (ns : List String) : firstRepeated seen (n :: ns) = some n := by
  rw [firstRepeated, if_pos h]

theorem firstRepeated_cons_of_notMem {seen : List String} {n : String} (h : n ∉ seen)
    (ns : List String) : firstRepeated seen (n :: ns) = firstRepeated (n :: seen) ns := by
  rw [firstRepeated, if_neg h]

theorem firstRepeated_eq_none_iff (seen ns : List String) :
    firstRepeated seen ns = none ↔ Fresh seen ns := by
  -- what has been seen grows along the list, so the induction is for all of it
  induction ns generalizing seen with
  | nil => simp [firstRepeated, Fresh.nil_right]
  | cons n ns ih =>
      rw [Fresh.cons_iff]
      by_cases h : n ∈ seen
      · rw [firstRepeated_cons_of_mem h]
        simp [h]
      · rw [firstRepeated_cons_of_notMem h, ih]
        simp [h]

/-- A name that the pass reports stands twice in the list, or was seen before. -/
theorem duplicate_of_firstRepeated {seen ns : List String} {n : String}
    (h : firstRepeated seen ns = some n) : n ∈ ns ∧ (n ∈ seen ∨ List.Duplicate n ns) := by
  induction ns generalizing seen with
  | nil => cases h
  | cons m ns ih =>
      by_cases hm : m ∈ seen
      · rw [firstRepeated_cons_of_mem hm] at h
        cases h
        exact ⟨List.mem_cons_self, Or.inl hm⟩
      · rw [firstRepeated_cons_of_notMem hm] at h
        obtain ⟨hn, hs⟩ := ih h
        refine ⟨List.mem_cons_of_mem m hn, ?_⟩
        rcases hs with hs | hd
        · rcases List.mem_cons.1 hs with rfl | hs
          · exact Or.inr (List.Mem.duplicate_cons_self hn)
          · exact Or.inl hs
        · exact Or.inr (hd.duplicate_cons m)

theorem firstUnresolved_eq_none_iff (clusters : List String) (routes : List Route) :
    firstUnresolved clusters routes = none ↔ ∀ r ∈ routes, r.cluster ∈ clusters := by
  simp [firstUnresolved, List.find?_eq_none]

theorem routeFault_eq_none_iff (clusters seen : List String) (rcs : List RouteConfig) :
    routeFault clusters seen rcs = none ↔
      Fresh seen (rcs.map RouteConfig.name) ∧
        ∀ rc ∈ rcs, ∀ r ∈ rc.routes, r.cluster ∈ clusters := by
  induction rcs generalizing seen with
  | nil => simp [routeFault, Fresh.nil_right]
  | cons rc rcs ih =>
      rw [List.map_cons, Fresh.cons_iff, List.forall_mem_cons,
        ← firstUnresolved_eq_none_iff clusters rc.routes]
      by_cases h : rc.name ∈ seen
      · rw [routeFault, if_pos h]
        simp [h]
      · rw [routeFault, if_neg h]
        cases hr : firstUnresolved clusters rc.routes with
        | some r => simp
        | none =>
            simp only [ih, h, not_false_eq_true, true_and]

theorem find?_port_eq_none_iff (seen : List Listener) (port : UInt16) :
    (seen.find? fun m => m.port == port) = none ↔ port ∉ seen.map Listener.port := by
  simp [List.find?_eq_none]

theorem listenerFault_eq_none_iff (routeConfigs : List String) (seen ls : List Listener) :
    listenerFault routeConfigs seen ls = none ↔
      Fresh (seen.map Listener.name) (ls.map Listener.name) ∧
        Fresh (seen.map Listener.port) (ls.map Listener.port) ∧
        ∀ l ∈ ls, l.routeConfig ∈ routeConfigs := by
  induction ls generalizing seen with
  | nil => simp [listenerFault, Fresh.nil_right]
  | cons l ls ih =>
      rw [List.map_cons, List.map_cons, Fresh.cons_iff, Fresh.cons_iff, List.forall_mem_cons,
        ← find?_port_eq_none_iff]
      by_cases hn : l.name ∈ seen.map Listener.name
      · rw [listenerFault, if_pos hn]
        simp only [reduceCtorEq, hn, not_true_eq_false, false_and]
      · rw [listenerFault, if_neg hn]
        cases hp : seen.find? fun m => m.port == l.port with
        | some m => simp
        | none =>
            by_cases hr : l.routeConfig ∈ routeConfigs
            · simp only [hr, if_true, ih, hn, List.map_cons, not_false_eq_true, true_and]
            · simp [hr]

/-- The check finds no fault exactly when clusters, route configurations and listeners have names
of their own, listeners have ports of their own, and all references lead to names of the bundle. -/
theorem fault?_eq_none_iff (r : Resources) :
    r.fault? = none ↔
      (r.clusters.map Cluster.name).Nodup ∧
        ((r.routes.map RouteConfig.name).Nodup ∧
          ∀ rc ∈ r.routes, ∀ x ∈ rc.routes, x.cluster ∈ r.clusters.map Cluster.name) ∧
        (r.listeners.map Listener.name).Nodup ∧ (r.listeners.map Listener.port).Nodup ∧
        ∀ l ∈ r.listeners, l.routeConfig ∈ r.routes.map RouteConfig.name := by
  have hc := firstRepeated_eq_none_iff [] (r.clusters.map Cluster.name)
  have hr := routeFault_eq_none_iff (r.clusters.map Cluster.name) [] r.routes
  have hl := listenerFault_eq_none_iff (r.routes.map RouteConfig.name) [] r.listeners
  simp only [Fresh.nil_left_iff, List.map_nil] at hc hr hl
  rw [← hc, ← hr, ← hl, fault?]
  cases firstRepeated [] (r.clusters.map Cluster.name) with
  | some n => simp
  | none =>
      cases routeFault (r.clusters.map Cluster.name) [] r.routes with
      | some fault => simp
      | none => simp

end Resources

end WafControl
