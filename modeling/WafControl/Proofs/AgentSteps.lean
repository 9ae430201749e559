import WafControl.Proofs.AgentParts
import WafControl.Proofs.CachedSlices

/-!
# What the steps of an agent change

Few steps matter to what the cache, the announced hosts and the store have in common: the store
changes, a listing succeeds, and the informer takes something up (`Stepped`). All others move slices
on towards the router, route them, or leave a poll without a listing; to them the slices that were
forwarded stay the same, in the same order (`Steady`).
-/

namespace WafControl

namespace AgentParts

variable {σ : Type}

/-- The slices that are on their way to the router, or were routed since the store last changed;
latest first. -/
def recent (s : AgentParts σ) : List EndpointSlice :=
  s.unsent.reverse ++ s.queue.items.reverse ++ s.hand.slices ++ s.since.map Routing.slice

/-- All slices that were forwarded, latest first. -/
def trail (s : AgentParts σ) : List EndpointSlice := s.recent ++ s.before.map Routing.slice

theorem recent_forward {s : AgentParts σ} {slices : List EndpointSlice} (informer : Informer)
    (h : s.unsent = []) : (s.forward slices informer).recent = slices.reverse ++ s.recent := by
  simp [forward, recent, h]

/-- After a step that neither changed the store nor listed its protections nor forwarded slices. -/
structure Steady (r : Router) (s s' : AgentParts σ) : Prop where
  version : s'.store.version = s.store.version
  protections : s'.store.protections = s.store.protections
  tokens : s'.tokens = s.tokens
  poller : s'.poller = s.poller
  poll : ∀ token, s'.poll = .listing token → s.poll = .listing token ∨ token = s.store.version
  hosts : s'.hosts = s.hosts
  hostsSeen : s'.hostsSeen = s.hostsSeen
  informer : s'.informer = s.informer
  recent : s'.recent = s.recent
  since : ∀ x ∈ s'.since, x ∈ s.since ∨ ∃ slice, x = r.routing slice s.store
  before : s'.before = s.before

theorem Steady.refl (r : Router) (s : AgentParts σ) : Steady r s s where
  version := rfl
  protections := rfl
  tokens := rfl
  poller := rfl
  poll := fun _ h => Or.inl h
  hosts := rfl
  hostsSeen := rfl
  informer := rfl
  recent := rfl
  since := fun _ h => Or.inl h
  before := rfl

/-- What a step can do. -/
inductive Stepped (r : Router) (s : AgentParts σ) : AgentParts σ → Prop
  | steady {s' : AgentParts σ} (h : Steady r s s') : Stepped r s s'
  | changed (token : String) (ps : List Protection) (fresh : token ∉ s.tokens) :
      Stepped r s
        { s with
          store := s.store.change { version := some token, protections := some ps }
          tokens := token :: s.tokens
          since := []
          before := s.since ++ s.before }
  | listed (token : String) (pending : s.poll = .listing token) :
      Stepped r s
        { s with
          store := s.store.recordList s.poller.filter
          poller := { s.poller with lastSeen := some token }
          poll := .idle
          hosts := s.hosts.set (upstreamHosts (s.poller.filter.select s.store.protections)) }
  | forwarded (slices : List EndpointSlice) (informer : Informer) (ready : s.unsent = [])
      (forwards : s.informer.Forwards slices informer) : Stepped r s (s.forward slices informer)
  | heeded (slices : List EndpointSlice) (ready : s.unsent = [])
      (replayed : slices.Perm (s.informer.replayHosts s.hosts.latest)) :
      Stepped r s { s.forward slices s.informer with hostsSeen := s.hosts.sets }

variable (r : Router) (c : RelayController) (ops : NodeOps σ) (s : AgentParts σ)

theorem steady_upset (ch : StoreChange) : Steady r s (s.upset ch) := { Steady.refl r s with }

theorem steady_disturb (node : Supervised σ) : Steady r s (s.disturb node) :=
  { Steady.refl r s with }

theorem steady_ask : Steady r s s.ask := by
  unfold ask
  split
  · exact { Steady.refl r s with poll := fun _ h => by cases h }
  · exact Steady.refl r s

theorem steady_answer : Steady r s s.answer := by
  unfold answer
  split
  · rw [Store.answerVersion]
    cases s.store.versionError with
    | some e => exact { Steady.refl r s with poll := fun _ h => by cases h }
    | none =>
        refine { Steady.refl r s with poll := fun token h => Or.inr ?_ }
        simp only at h
        split at h
        · cases h
          rfl
        · cases h
  · exact Steady.refl r s

theorem steady_send : Steady r s s.send := by
  unfold send
  split
  · exact Steady.refl r s
  · rename_i slice unsent hu
    split
    · rename_i hr
      have hoffer : (s.queue.offer [slice]).1.items = s.queue.items ++ [slice] := by
        rw [Mailbox.offer, List.take_of_length_le hr]
      exact { Steady.refl r s with recent := by simp [recent, hu, hoffer] }
    · exact Steady.refl r s

theorem steady_take : Steady r s s.take := by
  unfold take
  split
  · rename_i slice items hh hq
    exact { Steady.refl r s with recent := by simp [recent, hh, hq] }
  · exact Steady.refl r s

theorem steady_route : Steady r s (s.route r) := by
  unfold route
  split
  · rename_i slice hh
    have hstore := r.decide?_store slice s.store
    exact
      { Steady.refl r s with
        version := hstore.1
        protections := hstore.2
        recent := by simp [recent, hh, Router.routing]
        since := by
          intro x hx
          rcases List.mem_cons.1 hx with rfl | hx
          · exact Or.inr ⟨slice, rfl⟩
          · exact Or.inl hx }
  · exact Steady.refl r s

theorem steady_proceed {calls : List RelayCall} (h : s.hand.slices = [])
    (progress : Progress × Supervised σ) : Steady r s (s.proceed calls progress) := by
  obtain ⟨progress, node⟩ := progress
  cases progress with
  | finished outcome => exact { Steady.refl r s with recent := by simp [recent, proceed, h] }
  | waiting d start => exact { Steady.refl r s with recent := by simp [recent, proceed, h] }

theorem steady_begin : Steady r s (s.begin c ops) := by
  unfold begin
  split
  · rename_i hh
    exact { Steady.refl r s with recent := by simp [recent, hh] }
  · rename_i call calls hh
    exact steady_proceed r s (by rw [hh]; rfl) _
  · exact Steady.refl r s

theorem steady_resume : Steady r s (s.resume c ops) := by
  unfold resume
  split
  · rename_i start calls hh
    exact steady_proceed r s (by rw [hh]; rfl) _
  · exact Steady.refl r s

theorem stepped_change (token : String) (ps : List Protection) :
    Stepped r s (s.change token ps) := by
  unfold change
  split
  · exact .steady (Steady.refl r s)
  · rename_i h
    exact .changed token ps h

theorem stepped_list : Stepped r s s.list := by
  unfold list
  split
  · exact .steady (Steady.refl r s)
  · exact .steady (Steady.refl r s)
  · rename_i token hp
    cases he : s.store.listError with
    | some e =>
        simp only [Store.list, Store.answerList, he, Poller.listed, HostSignal.follow]
        exact .steady { Steady.refl r s with poll := fun _ h => by cases h }
    | none =>
        simp only [Store.list, Store.answerList, he, Poller.listed, HostSignal.follow]
        exact .listed token hp

variable {s}

theorem stepped_event (h : s.informer.Keyed) (e : WatchEvent EndpointSlice) :
    Stepped r s (s.event e) := by
  unfold event
  split
  · rename_i hu
    exact .forwarded _ _ hu (Informer.forwards_handle h e)
  · exact .steady (Steady.refl r s)

theorem stepped_resync (h : s.informer.Keyed) (slices : List EndpointSlice) :
    Stepped r s (s.resync slices) := by
  unfold resync
  split
  · rename_i hr
    refine .forwarded _ _ hr.1 (Informer.forwards_cached h fun x hx => ?_)
    exact (Informer.mem_replay_iff.1 (hr.2.mem_iff.1 hx)).1
  · exact .steady (Steady.refl r s)

variable (s)

theorem stepped_heed (slices : List EndpointSlice) : Stepped r s (s.heed slices) := by
  unfold heed
  split
  · rename_i hr
    exact .heeded slices hr.1 hr.2.2
  · exact .steady (Steady.refl r s)

variable {s}

/-- Every step is of one of the kinds. -/
theorem stepped_step (h : s.informer.Keyed) (a : AgentStep σ) :
    Stepped r s (s.step r c ops a) := by
  cases a with
  | change token ps => exact stepped_change r s token ps
  | upset ch => exact .steady (steady_upset r s ch)
  | disturb node => exact .steady (steady_disturb r s node)
  | ask => exact .steady (steady_ask r s)
  | answer => exact .steady (steady_answer r s)
  | list => exact stepped_list r s
  | event e => exact stepped_event r h e
  | resync slices => exact stepped_resync r h slices
  | heed slices => exact stepped_heed r s slices
  | send => exact .steady (steady_send r s)
  | take => exact .steady (steady_take r s)
  | route => exact .steady (steady_route r s)
  | begin => exact .steady (steady_begin r c ops s)
  | resume => exact .steady (steady_resume r c ops s)

end AgentParts

end WafControl
