import WafControl.Proofs.AgentSteps

/-!
# The order in which slices reach the router

Slices reach the router in the order in which they were forwarded. So of all slices forwarded under
a key that is cached, whether they were routed or are still on their way, the latest is the cached
one (`Ordered`).
-/

namespace WafControl

namespace AgentParts

variable {σ : Type}

/-- The latest slice that was forwarded under a key. -/
def latest? (k : SliceKey) (s : AgentParts σ) : Option EndpointSlice :=
  s.trail.find? fun x => decide (x.key = k)

/-- The cached slice of a key is the latest that was forwarded under it. -/
structure Ordered (s : AgentParts σ) : Prop where
  keyed : s.informer.Keyed
  latest : ∀ k x, s.informer.cache.find? k = some x → s.latest? k = some x

theorem ordered_start (store : Store) (capacity : Nat) (node : Supervised σ) :
    (start store capacity node).Ordered where
  keyed := Informer.keyed_empty
  latest := fun _ _ h => by cases h

/-- Nothing is forwarded, and the cache stays the same. -/
theorem Ordered.of_trail {s s' : AgentParts σ} (h : s.Ordered) (hi : s'.informer = s.informer)
    (ht : s'.trail = s.trail) : s'.Ordered where
  keyed := hi ▸ h.keyed
  latest := by
    intro k x hx
    rw [hi] at hx
    rw [latest?, ht]
    exact h.latest k x hx

variable {s : AgentParts σ}

theorem trail_forward {slices : List EndpointSlice} (informer : Informer) (h : s.unsent = []) :
    (s.forward slices informer).trail = slices.reverse ++ s.trail := by
  rw [trail, recent_forward informer h, trail, List.append_assoc]
  rfl

theorem Ordered.forward {slices : List EndpointSlice} {informer : Informer} (h : s.Ordered)
    (hu : s.unsent = []) (hf : s.informer.Forwards slices informer) :
    (s.forward slices informer).Ordered where
  keyed := hf.keyed
  latest := by
    intro k x hx
    rw [latest?, trail_forward informer hu]
    exact hf.latest h.latest k x hx

variable {r : Router}

theorem Stepped.ordered {s' : AgentParts σ} (hs : Stepped r s s') (h : s.Ordered) :
    s'.Ordered := by
  cases hs with
  | steady h' =>
      refine h.of_trail h'.informer ?_
      rw [trail, h'.recent, h'.before]
      rfl
  | changed token ps fresh => exact h.of_trail rfl (by simp [trail, recent])
  | listed token pending => exact h.of_trail rfl rfl
  | forwarded slices informer ready forwards => exact h.forward ready forwards
  | heeded slices ready replayed =>
      have hc : s.informer.Forwards slices s.informer := by
        refine Informer.forwards_cached h.keyed fun x hx => ?_
        exact (Informer.mem_replayHosts_iff.1 (replayed.mem_iff.1 hx)).1
      exact (h.forward ready hc).of_trail rfl rfl

end AgentParts

end WafControl
