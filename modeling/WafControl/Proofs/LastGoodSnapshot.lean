import WafControl.Proofs.BuildChecks
import WafControl.Proofs.Sessions

/-!
# The last good snapshot

Several appliers publish to one cache, some of them to the same node, and watchers come and look at
any time. A call that is refused leaves no trace outside its applier; one that succeeds replaces the
snapshot of its node. So every node is served the snapshot of the last call for it that succeeded,
and a watcher learns of every publication of its own node and of no other (`last_good_served`).
-/

namespace WafControl

/-- What an applier is called with. -/
inductive Publication where
  | listing (ps : List Protection)
  | ready (r : Resources)
  deriving DecidableEq, Repr

def Publication.resources (config : GatewayConfig) : Publication → Resources
  | listing ps => build config ps
  | ready r => r

namespace Applier

def call (a : Applier) (version : String) (p : Publication) (c : Cache) :
    Except Inconsistency Snapshot × Applier × Cache :=
  match p with
  | .listing ps => a.apply version ps c
  | .ready r => a.publish version r c

variable (a : Applier) (version : String) (c : Cache)

theorem publish_of_fault {r : Resources} {fault : Inconsistency} (h : r.fault? = some fault) :
    a.publish version r c = (.error fault, { a with state := .idle }, c) := by
  simp only [publish, h]

theorem publish_of_consistent {r : Resources} (h : r.fault? = none) :
    a.publish version r c =
      (.ok ⟨version, r⟩, { a with state := .idle }, c.set a.node ⟨version, r⟩) := by
  simp only [publish, h]

/-- To apply protections is to publish what is built from them. -/
theorem call_eq_publish (p : Publication) :
    a.call version p c = a.publish version (p.resources a.config) c := by
  cases p with
  | listing ps => rfl
  | ready r => rfl

end Applier

/-- A call for a node, and what it came to. -/
structure PublishCall where
  node : String
  outcome : Except Inconsistency Snapshot

/-- A cache with the appliers that publish to it and the watchers that read it. -/
structure SharedCache where
  cache : Cache := {}
  appliers : List Applier := []
  watchers : List Watcher := []
  /-- The calls so far, latest first. -/
  calls : List PublishCall := []

inductive SharedStep where
  | join (node : String) (config : GatewayConfig)
  /-- The applier at a place is called. -/
  | call (i : Nat) (version : String) (p : Publication)
  | watch (node : String)
  /-- The watcher at a place has seen the current snapshot. -/
  | see (i : Nat)

namespace SharedCache

def step (s : SharedCache) : SharedStep → SharedCache
  | .join node config => { s with appliers := s.appliers ++ [{ node, config }] }
  | .call i version p =>
    match s.appliers[i]? with
    | none => s
    | some a =>
      let (outcome, after, cache) := a.call version p s.cache
      { s with
        cache
        appliers := s.appliers.set i after
        calls := ⟨a.node, outcome⟩ :: s.calls }
  | .watch node =>
    let (w, cache) := s.cache.watch node
    { s with cache, watchers := s.watchers ++ [w] }
  | .see i => { s with watchers := s.watchers.modify i fun w => w.see s.cache }

def run (s : SharedCache) (steps : List SharedStep) : SharedCache := steps.foldl step s

/-- The snapshot of the last call for a node that succeeded. -/
def lastGood? (s : SharedCache) (node : String) : Option Snapshot :=
  s.calls.findSome? fun c => if c.node = node then c.outcome.toOption else none

variable {s : SharedCache} {i : Nat} {a : Applier} {version : String} {p : Publication}

theorem step_call_of_fault (ha : s.appliers[i]? = some a) {fault : Inconsistency}
    (h : (p.resources a.config).fault? = some fault) :
    s.step (.call i version p) =
      { s with
        appliers := s.appliers.set i { a with state := .idle }
        calls := ⟨a.node, .error fault⟩ :: s.calls } := by
  simp only [step, ha, Applier.call_eq_publish, Applier.publish_of_fault _ _ _ h]

theorem step_call_of_consistent (ha : s.appliers[i]? = some a)
    (h : (p.resources a.config).fault? = none) :
    s.step (.call i version p) =
      { s with
        cache := s.cache.set a.node ⟨version, p.resources a.config⟩
        appliers := s.appliers.set i { a with state := .idle }
        calls := ⟨a.node, .ok ⟨version, p.resources a.config⟩⟩ :: s.calls } := by
  simp only [step, ha, Applier.call_eq_publish, Applier.publish_of_consistent _ _ _ h]

theorem step_watch (s : SharedCache) (node : String) :
    s.step (.watch node) =
      { s with
        cache := (s.cache.watch node).2
        watchers := s.watchers ++ [⟨node, (s.cache.channel node).sets⟩] } := by
  rw [← Cache.watch_fst]
  rfl

/-- Every node is served the snapshot of the last call that succeeded, every such snapshot is
consistent, no applier is at work, and no watcher has seen what was not set. -/
structure ServesLastGood (s : SharedCache) : Prop where
  served : ∀ node, s.cache.get node = s.lastGood? node
  consistent : ∀ c ∈ s.calls, ∀ x, c.outcome = .ok x → x.resources.consistent = true
  idle : ∀ a ∈ s.appliers, a.state = .idle
  seen : ∀ w ∈ s.watchers, w.seen ≤ (s.cache.channel w.node).sets

theorem servesLastGood_empty : ServesLastGood {} where
  served := fun _ => rfl
  consistent := fun _ h => absurd h List.not_mem_nil
  idle := fun _ h => absurd h List.not_mem_nil
  seen := fun _ h => absurd h List.not_mem_nil

theorem ServesLastGood.idle_set (h : s.ServesLastGood) :
    ∀ b ∈ s.appliers.set i { a with state := .idle }, b.state = .idle := by
  intro b hb
  rcases List.mem_or_eq_of_mem_set hb with hb | rfl
  · exact h.idle b hb
  · rfl

/-- The snapshot of a call that succeeds is the one that its node is served from then on. -/
theorem get_set_eq_lastGood? (h : ∀ node, s.cache.get node = s.lastGood? node) (node : String)
    (x : Snapshot) (other : String) :
    (s.cache.set node x).get other =
      (⟨node, .ok x⟩ :: s.calls).findSome? fun c =>
        if c.node = other then c.outcome.toOption else none := by
  by_cases hn : other = node
  · subst hn
    simp [Except.toOption]
  · rw [Cache.get_set_of_ne s.cache hn, h, lastGood?, List.findSome?_cons]
    simp [Ne.symm hn]

theorem ServesLastGood.call (h : s.ServesLastGood) (i : Nat) (version : String) (p : Publication) :
    (s.step (.call i version p)).ServesLastGood := by
  cases ha : s.appliers[i]? with
  | none => simpa only [step, ha] using h
  | some a =>
      cases hf : (p.resources a.config).fault? with
      -- a call that is refused is skipped when the last good one is looked for
      | some fault =>
          rw [step_call_of_fault ha hf]
          refine { h with served := fun node => ?_, consistent := ?_, idle := h.idle_set }
          · rw [h.served, lastGood?, lastGood?, List.findSome?_cons]
            simp [Except.toOption]
          · refine List.forall_mem_cons.2 ⟨fun x hx => ?_, h.consistent⟩
            cases hx
      | none =>
          rw [step_call_of_consistent ha hf]
          refine
            { served := get_set_eq_lastGood? h.served a.node _
              consistent := ?_
              idle := h.idle_set
              seen := fun w hw =>
                Nat.le_trans (h.seen w hw) (Cache.sets_le_set s.cache a.node w.node _) }
          refine List.forall_mem_cons.2 ⟨fun x hx => ?_, h.consistent⟩
          cases hx
          exact Option.isNone_iff_eq_none.2 hf

theorem ServesLastGood.watch (h : s.ServesLastGood) (node : String) :
    (s.step (.watch node)).ServesLastGood := by
  rw [step_watch]
  refine { h with served := fun other => ?_, seen := fun w hw => ?_ }
  · exact (Cache.get_watch s.cache node other).trans (h.served other)
  · simp only [s.cache.channel_watch]
    rcases List.mem_append.1 hw with hw | hw
    · exact h.seen w hw
    · cases List.mem_singleton.1 hw
      exact Nat.le_refl _

theorem ServesLastGood.see (h : s.ServesLastGood) (i : Nat) : (s.step (.see i)).ServesLastGood := by
  refine { h with seen := fun w hw => ?_ }
  obtain ⟨j, hj, rfl⟩ := List.mem_iff_getElem.1 hw
  simp only [step, List.getElem_modify]
  split
  · exact Nat.le_refl _
  · exact h.seen _ (List.getElem_mem _)

theorem ServesLastGood.step (h : s.ServesLastGood) (a : SharedStep) :
    (s.step a).ServesLastGood := by
  cases a with
  | join node config =>
      refine { h with idle := fun b hb => ?_ }
      rcases List.mem_append.1 hb with hb | hb
      · exact h.idle b hb
      · rw [List.mem_singleton.1 hb]
  | call i version p => exact h.call i version p
  | watch node => exact h.watch node
  | see i => exact h.see i

theorem ServesLastGood.run (h : s.ServesLastGood) (steps : List SharedStep) :
    (s.run steps).ServesLastGood := by
  induction steps generalizing s with
  | nil => exact h
  | cons a steps ih => exact ih (h.step a)

theorem ServesLastGood.consistent_of_get (h : s.ServesLastGood) {node : String} {x : Snapshot}
    (hx : s.cache.get node = some x) : x.resources.consistent = true := by
  rw [h.served, lastGood?] at hx
  obtain ⟨c, hc, hcx⟩ := List.exists_of_findSome?_eq_some hx
  split at hcx
  · cases ho : c.outcome with
    | error fault => simp [ho, Except.toOption] at hcx
    | ok y =>
        rw [ho] at hcx
        cases hcx
        exact h.consistent c hc x ho
  · cases hcx

/-- A publication is news to the watchers of its node, and to no other. -/
theorem ServesLastGood.changed_set (h : s.ServesLastGood) {w : Watcher} (hw : w ∈ s.watchers)
    (node : String) (x : Snapshot) :
    w.changed (s.cache.set node x) = (decide (w.node = node) || w.changed s.cache) := by
  by_cases hn : w.node = node
  · subst hn
    simp [Watcher.changed_set_self (h.seen w hw)]
  · simp [Watcher.changed_set_of_ne hn, hn]

/-- Whatever appliers are called with, and whenever watchers come and look: every node is served the
snapshot of the last call for it that succeeded, which is consistent, and no applier is left at
work. A call with inconsistent resources is refused and changes neither the cache nor what a watcher
knows; any other call succeeds, and is news to the watchers of its own node and to no other. -/
theorem last_good_served (steps : List SharedStep) :
    let s := run {} steps
    (∀ node, s.cache.get node = s.lastGood? node) ∧
      (∀ node x, s.cache.get node = some x → x.resources.consistent = true) ∧
      (∀ a ∈ s.appliers, a.state = .idle) ∧
      ∀ i a, s.appliers[i]? = some a → ∀ version p,
        let s' := s.step (.call i version p)
        s'.watchers = s.watchers ∧
          match (p.resources a.config).fault? with
          | some fault => s'.calls = ⟨a.node, .error fault⟩ :: s.calls ∧ s'.cache = s.cache
          | none =>
            s'.calls = ⟨a.node, .ok ⟨version, p.resources a.config⟩⟩ :: s.calls ∧
              ∀ w ∈ s.watchers,
                w.changed s'.cache = (decide (w.node = a.node) || w.changed s.cache) := by
  intro s
  have h : s.ServesLastGood := servesLastGood_empty.run steps
  refine ⟨h.served, fun node x => h.consistent_of_get, h.idle, fun i a ha version p => ?_⟩
  cases hf : (p.resources a.config).fault? with
  | some fault =>
      simp only [step_call_of_fault ha hf, and_self]
  | none =>
      simp only [step_call_of_consistent ha hf, true_and]
      exact fun w hw => h.changed_set hw a.node _

/-- Two appliers share a node, and the second one is refused; a third has a node of its own. -/
def sharing : List SharedStep :=
  [ .join "gateway" {}, .join "gateway" {}, .join "edge" {}, .watch "gateway", .watch "edge",
    .call 0 "1" (.listing [Protection.guarding "shop" "shop.blue.svc" 31000]), .see 0,
    .call 1 "2" (.listing Applier.namesakes) ]

/-- The refusal left the snapshot of the first applier, and the next publication of the second one
is news to the watcher of their node alone. -/
theorem sharing_last_good :
    let s := run {} sharing
    let s' := s.step (.call 1 "3" (.ready {}))
    (s.cache.get "gateway").map Snapshot.version = some "1" ∧
      (⟨"gateway", 1⟩ : Watcher).changed s.cache = false ∧
      (⟨"gateway", 1⟩ : Watcher).changed s'.cache = true ∧
      (⟨"edge", 0⟩ : Watcher).changed s'.cache = false := by
  intro s s'
  obtain ⟨hserved, -, -, hcalls⟩ := last_good_served sharing
  have hcall := hcalls 1 ⟨"gateway", {}, .idle⟩ (by decide) "3" (.ready {})
  have hchanged : ∀ w ∈ s.watchers,
      w.changed s'.cache = (decide (w.node = "gateway") || w.changed s.cache) := hcall.2.2
  refine ⟨?_, by decide, ?_, ?_⟩
  · rw [hserved "gateway"]
    decide
  · exact hchanged ⟨"gateway", 1⟩ (by decide)
  · rw [hchanged ⟨"edge", 0⟩ (by decide)]
    decide

end SharedCache

end WafControl
