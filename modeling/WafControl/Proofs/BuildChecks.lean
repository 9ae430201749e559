import WafControl.Gateway.Applier
import WafControl.Proofs.Kept

/-!
# When a build is published

The builder keeps the listener ports of a build distinct, and the references of a build lead from
every listener to a route configuration and from there to a cluster. What it does not look at is
whether two applications share a name. So a repeated application name is the only fault that a build
can have, and where there is one, nothing of the build is published.
-/

namespace WafControl

/-- The fault of a build is the first application name that is repeated. -/
theorem fault?_build (config : GatewayConfig) (ps : List Protection) :
    (build config ps).fault? =
      (Resources.firstRepeated [] (Build.names ps)).map (Inconsistency.duplicate .cluster) := by
  rw [Resources.fault?, map_name_clusters_build, map_name_routes_build]
  cases h : Resources.firstRepeated [] (Build.names ps) with
  | some n => rfl
  | none =>
      have hf : Fresh [] (Build.names ps) := (Resources.firstRepeated_eq_none_iff _ _).1 h
      have hr : Resources.routeFault (Build.names ps) [] (build config ps).routes = none := by
        rw [Resources.routeFault_eq_none_iff, map_name_routes_build]
        exact ⟨hf, fun rc hrc r hr => cluster_mem_build config ps hrc hr⟩
      have hl : Resources.listenerFault (Build.names ps) [] (build config ps).listeners = none := by
        rw [Resources.listenerFault_eq_none_iff, map_name_listeners_build,
          map_port_listeners_build]
        exact ⟨hf, Build.keptFrom_ports_fresh [] ps, fun l hl => routeConfig_mem_build config ps hl⟩
      simp only [hr, hl, Option.map_none]

theorem fault?_build_eq_none_iff (config : GatewayConfig) (ps : List Protection) :
    (build config ps).fault? = none ↔ (Build.names ps).Nodup := by
  rw [fault?_build, Option.map_eq_none_iff, Resources.firstRepeated_eq_none_iff,
    Fresh.nil_left_iff]

theorem fault?_build_eq_some {config : GatewayConfig} {ps : List Protection}
    {fault : Inconsistency} (h : (build config ps).fault? = some fault) :
    ∃ n, List.Duplicate n (Build.names ps) ∧ fault = .duplicate .cluster n := by
  rw [fault?_build, Option.map_eq_some_iff] at h
  obtain ⟨n, hn, rfl⟩ := h
  obtain ⟨-, hs | hd⟩ := Resources.duplicate_of_firstRepeated hn
  · exact absurd hs List.not_mem_nil
  · exact ⟨n, hd, rfl⟩

namespace Applier

theorem apply_of_fault (a : Applier) (version : String) (ps : List Protection) (c : Cache)
    {fault : Inconsistency} (h : (build a.config ps).fault? = some fault) :
    (a.apply version ps c).1 = .error fault ∧ (a.apply version ps c).2.2 = c := by
  simp only [apply, publish, h, and_self]

theorem apply_of_no_fault (a : Applier) (version : String) (ps : List Protection) (c : Cache)
    (h : (build a.config ps).fault? = none) :
    (a.apply version ps c).1 = .ok ⟨version, build a.config ps⟩ ∧
      (a.apply version ps c).2.2 = c.set a.node ⟨version, build a.config ps⟩ := by
  simp only [apply, publish, h, and_self]

/-- A build is consistent, and its application succeeds, exactly when the applications that are
built have names of their own. Otherwise the error names a repeated application, and the cache stays
as it was: none of the other applications is published either. -/
theorem apply_ok_iff_names_nodup (a : Applier) (version : String) (ps : List Protection)
    (c : Cache) :
    ((build a.config ps).consistent = true ↔ (Build.names ps).Nodup) ∧
      ((∃ snapshot, (a.apply version ps c).1 = .ok snapshot) ↔ (Build.names ps).Nodup) ∧
      ((Build.names ps).Nodup →
        (a.apply version ps c).1 = .ok ⟨version, build a.config ps⟩ ∧
          (a.apply version ps c).2.2.get a.node = some ⟨version, build a.config ps⟩) ∧
      ∀ fault, (a.apply version ps c).1 = .error fault →
        (∃ n, List.Duplicate n (Build.names ps) ∧ fault = .duplicate .cluster n) ∧
          (a.apply version ps c).2.2 = c := by
  rw [← fault?_build_eq_none_iff a.config ps]
  cases h : (build a.config ps).fault? with
  | none =>
      obtain ⟨hok, hset⟩ := a.apply_of_no_fault version ps c h
      refine ⟨by simp [Resources.consistent, h], by simp [hok], fun _ => ⟨hok, ?_⟩, ?_⟩
      · rw [hset, Cache.get_set_self]
      · intro fault hf
        rw [hok] at hf
        cases hf
  | some fault =>
      obtain ⟨herr, hc⟩ := a.apply_of_fault version ps c h
      refine ⟨by simp [Resources.consistent, h], by simp [herr], by simp, ?_⟩
      intro fault' hf
      rw [herr] at hf
      cases hf
      exact ⟨fault?_build_eq_some h, hc⟩

/-- Two applications to be built between protections that are not: one without an application, one
without an ingress, one without a port, and one whose name and port are both in use. -/
def oddities : List Protection :=
  [ { id := 7, mode := .on }, Protection.guarding "shop" "shop.blue.svc" 31000,
    { id := 8, application := some { id := 8, name := "shop" } },
    Protection.guarding "shop" "shop.red.svc" 0, Protection.guarding "shop" "shop.red.svc" 31000,
    Protection.guarding "blog" "blog.blue.svc" 31001 ]

theorem apply_oddities :
    Build.names oddities = ["shop", "blog"] ∧ (Build.names oddities).Nodup ∧
      (apply ⟨"gateway", {}, .idle⟩ "1" oddities {}).1 = .ok ⟨"1", build {} oddities⟩ := by
  have h : (Build.names oddities).Nodup := by decide
  have happly := apply_ok_iff_names_nodup ⟨"gateway", {}, .idle⟩ "1" oddities {}
  exact ⟨by decide, h, (happly.2.2.1 h).1⟩

/-- Two applications of one name, on ports of their own. -/
def namesakes : List Protection :=
  [ Protection.guarding "shop" "shop.blue.svc" 31000,
    Protection.guarding "shop" "shop.red.svc" 31001 ]

/-- Not every build is consistent and published. -/
theorem namesakes_block_apply :
    ¬ ∀ (a : Applier) (version : String) (ps : List Protection) (c : Cache),
      (build a.config ps).consistent = true ∧
        ∃ snapshot, (a.apply version ps c).1 = .ok snapshot := by
  intro h
  have hc := (h ⟨"gateway", {}, .idle⟩ "1" namesakes {}).1
  exact absurd hc (by decide)

end Applier

end WafControl
