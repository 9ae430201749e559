import WafControl.Proofs.RelayNode

/-!
# What is left of a redirect once its relay is absent

A controller makes relays present and absent, in any order and whatever fails on the way. A relay
that is not serving has left rules behind only if its last removal failed (`tidy_ran`). Since the
controller takes a relay that says it is idle for absent, a removal that failed is not made up for:
the next call for the relay's absence succeeds with the rules in place.
-/

namespace WafControl

/-- A call of a run, and what surrounds the node during it. -/
structure Turn (σ : Type) where
  around : Surroundings σ
  call : RelayCall

/-- Whether a removal is owed to a namespace after a turn with the given outcome: one that failed
is, until a relay is present there. -/
def Turn.removalOwed {σ : Type} (t : Turn σ) (k : String) (outcome : Except Failure Unit)
    (owed : Bool) : Bool :=
  if t.around.netns? t.call.pod = some k then
    match t.call.intent, outcome with
    | .absent, .error _ => true
    | .absent, .ok _ => owed
    | .present _, .error _ => owed
    | .present _, .ok _ => false
  else owed

namespace Turn

variable {σ : Type} {t : Turn σ} {k : String}

theorem removalOwed_of_ne (h : t.around.netns? t.call.pod ≠ some k)
    (outcome : Except Failure Unit) (owed : Bool) : t.removalOwed k outcome owed = owed :=
  if_neg h

theorem removalOwed_of_absent (h : t.around.netns? t.call.pod = some k)
    (ha : t.call.intent = .absent) (outcome : Except Failure Unit) (owed : Bool) :
    t.removalOwed k outcome owed = match outcome with | .error _ => true | .ok _ => owed := by
  simp only [removalOwed, if_pos h, ha]
  cases outcome with
  | ok u => rfl
  | error e => rfl

theorem removalOwed_of_present (h : t.around.netns? t.call.pod = some k)
    {options : RelayOptions} (hp : t.call.intent = .present options)
    (outcome : Except Failure Unit) (owed : Bool) :
    t.removalOwed k outcome owed = match outcome with | .error _ => owed | .ok _ => false := by
  simp only [removalOwed, if_pos h, hp]
  cases outcome with
  | ok u => rfl
  | error e => rfl

end Turn

namespace RelayNamespace

variable {σ : Type} (view : σ → Ruleset)

/-- The rules of a relay in the chain of the namespace. -/
def owned (ns : RelayNamespace σ) : List NftRule := (view ns.host).ownedRules

/-- The relay process, if there is one, says truly whether it has a forwarder. -/
def Honest : RelayNamespace σ → Prop
  | vacant _ => True
  | occupied srv => srv.Honest

/-- The health in the namespace is true, and rules without a relay that serves are there only where
a removal is owed. -/
structure Tidy (owed : Bool) (ns : RelayNamespace σ) : Prop where
  honest : ns.Honest
  rules : ns.probe ≠ .active → ns.owned view ≠ [] → owed = true

theorem probe_occupied_of_serving {srv : RelayServer σ} (h : srv.serving = true) :
    (occupied srv).probe = .active := if_pos h

theorem exists_serving_of_probe {ns : RelayNamespace σ} (h : ns.probe = .active) :
    ∃ srv, ns = occupied srv ∧ srv.serving = true := by
  cases ns with
  | vacant host => cases h
  | occupied srv =>
      cases hs : srv.serving with
      | true => exact ⟨srv, rfl, hs⟩
      | false =>
          rw [probe, hs] at h
          cases h

variable {view}

/-- Where a relay serves, no removal is owed. -/
theorem Tidy.of_serving {srv : RelayServer σ} (hs : srv.serving = true) {owed owed' : Bool}
    (h : (occupied srv).Tidy view owed) : (occupied srv).Tidy view owed' :=
  ⟨h.honest, fun ha => absurd (probe_occupied_of_serving hs) ha⟩

/-- What starts in a namespace without a serving relay come to. -/
theorem tidy_of_tried {k : String} {n : RelayNode σ} {result : Except Failure Unit × RelayNode σ}
    {owed : Bool} (hn : (n k).probe ≠ .active) (h : (n k).Tidy view owed)
    (ht : Surroundings.Tried view k ((n k).owned view) n result) :
    (result.2 k).Tidy view (match result.1 with | .error _ => owed | .ok _ => false) := by
  obtain ⟨outcome, n'⟩ := result
  cases outcome with
  | ok u =>
      obtain ⟨options, host, hup⟩ := ht.ok rfl
      simp only at hup ⊢
      rw [hup]
      exact ⟨rfl, fun ha => absurd (probe_occupied_of_serving rfl) ha⟩
  | error e =>
      obtain ⟨srv, hsrv, hidle, hrules⟩ := ht.error e rfl
      simp only at hsrv ⊢
      rw [hsrv]
      refine ⟨hidle.honest, fun _ hne => h.rules hn ?_⟩
      rcases hrules with hr | hr
      · rwa [← hr]
      · exact absurd hr hne

/-- A request to stop makes the relay idle; if it succeeds, no rules of a relay are left. -/
theorem request_stop {host : RelayHost σ} (hf : host.Faithful view) {srv : RelayServer σ}
    (h : srv.Honest) (doing : String) :
    ∃ after, RelayServer.Idle after ∧
      ((occupied srv).request doing (RelayServer.stopRelay host) = (.ok (), occupied after) ∧
          after.owned view = [] ∨
        ∃ e, (occupied srv).request doing (RelayServer.stopRelay host) =
          (.error e, occupied after)) := by
  have hidle := RelayServer.deactivate_idle host h
  cases hd : srv.deactivate host with
  | mk answer after =>
      rw [hd] at hidle
      refine ⟨after, hidle, ?_⟩
      rw [request, RelayServer.stopRelay, hd]
      cases answer with
      | ok u =>
          have hok := RelayServer.owned_deactivate_ok hf (congrArg Prod.fst hd)
          rw [hd] at hok
          exact Or.inl ⟨rfl, hok⟩
      | error status => exact Or.inr ⟨_, rfl⟩

end RelayNamespace

namespace RelayController

variable {σ : Type} {view : σ → Ruleset} (c : RelayController)

open RelayNamespace Surroundings

section Performed

variable {t : Turn σ} {k : String} {n : RelayNode σ} {owed : Bool}

theorem tidy_performed_absent (hf : t.around.host.Faithful view)
    (hk : t.around.netns? t.call.pod = some k) (ha : t.call.intent = .absent)
    (h : (n k).Tidy view owed) :
    ((c.performed t.around.ops t.call n).2 k).Tidy view
      (t.removalOwed k (c.performed t.around.ops t.call n).1 owed) := by
  rw [Turn.removalOwed_of_absent hk ha]
  by_cases hp : (n k).probe = .active
  · obtain ⟨srv, hn, hs⟩ := exists_serving_of_probe hp
    have hhonest := h.honest
    rw [hn] at hhonest
    rw [t.around.performed_absent_of_serving c hk ha hn hs, RelayNode.request_fst,
      RelayNode.request_snd_self, hn]
    obtain ⟨after, hidle, ⟨hr, hempty⟩ | ⟨e, hr⟩⟩ := request_stop hf hhonest "StopRelay failed"
    · rw [hr]
      exact ⟨hidle.honest, fun _ hne => absurd hempty hne⟩
    · rw [hr]
      exact ⟨hidle.honest, fun _ _ => rfl⟩
  -- a relay that does not serve is not asked to stop, and what is owed remains so
  · rw [t.around.performed_absent_of_not_active c hk ha hp]
    exact h

theorem tidy_performed_present (hf : t.around.host.Faithful view)
    (hk : t.around.netns? t.call.pod = some k) {options : RelayOptions}
    (hp : t.call.intent = .present options) (h : (n k).Tidy view owed) :
    ((c.performed t.around.ops t.call n).2 k).Tidy view
      (t.removalOwed k (c.performed t.around.ops t.call n).1 owed) := by
  rw [Turn.removalOwed_of_present hk hp]
  cases hn : n k with
  | vacant host =>
      have hne : (n k).probe ≠ .active := by
        rw [hn]
        exact ProbeState.noConfusion
      rcases performed_present_of_vacant hf c hk hp hn with ⟨e, he⟩ | ht
      · rw [he]
        exact h
      · refine tidy_of_tried hne h ?_
        rw [hn]
        exact ht
  | occupied srv =>
      have hhonest := h.honest
      rw [hn] at hhonest
      cases hs : srv.serving with
      | true =>
          rw [performed_present_of_serving t.around c hk hp hn hs]
          rw [hn] at h
          simp only [hn]
          exact h.of_serving hs
      | false =>
          have hne : (n k).probe ≠ .active := by
            rw [hn, RelayNamespace.probe, hs]
            exact ProbeState.noConfusion
          have ht := performed_present_of_idle hf c hk hp hn (hhonest.idle hs)
          refine tidy_of_tried hne h ?_
          rw [hn]
          exact ht

/-- A call for a relay's absence that succeeds removes the rules of a relay that was serving, and
leaves those of one that was not. -/
theorem owned_performed_absent (hf : t.around.host.Faithful view)
    (hk : t.around.netns? t.call.pod = some k) (ha : t.call.intent = .absent)
    (hh : (n k).Honest)
    (hok : (c.performed t.around.ops t.call n).1 = .ok ()) :
    ((c.performed t.around.ops t.call n).2 k).owned view = [] ↔
      (n k).probe = .active ∨ (n k).owned view = [] := by
  by_cases hp : (n k).probe = .active
  · obtain ⟨srv, hn, hs⟩ := exists_serving_of_probe hp
    rw [hn] at hh
    rw [t.around.performed_absent_of_serving c hk ha hn hs] at hok ⊢
    rw [RelayNode.request_fst, hn] at hok
    rw [RelayNode.request_snd_self, hn]
    obtain ⟨after, -, ⟨hr, hempty⟩ | ⟨e, hr⟩⟩ := request_stop hf hh "StopRelay failed"
    · rw [hr]
      exact ⟨fun _ => Or.inl (probe_occupied_of_serving hs), fun _ => hempty⟩
    · rw [hr] at hok
      cases hok
  · rw [t.around.performed_absent_of_not_active c hk ha hp]
    exact ⟨Or.inr, fun h => h.resolve_left hp⟩

/-- A reconciliation changes no namespace but that of its pod. -/
theorem performed_elsewhere (hf : t.around.host.Faithful view) (hh : (n k).Honest)
    (hk : t.around.netns? t.call.pod = some k) {j : String} (hj : j ≠ k) :
    (c.performed t.around.ops t.call n).2 j = n j := by
  cases hi : t.call.intent with
  | absent =>
      by_cases hp : (n k).probe = .active
      · obtain ⟨srv, hn, hs⟩ := exists_serving_of_probe hp
        rw [t.around.performed_absent_of_serving c hk hi hn hs]
        exact RelayNode.request_snd_of_ne _ _ hj n
      · rw [t.around.performed_absent_of_not_active c hk hi hp]
  | present options =>
      cases hn : n k with
      | vacant host =>
          rcases performed_present_of_vacant hf c hk hi hn with ⟨e, he⟩ | ht
          · rw [he]
          · exact ht.elsewhere j hj
      | occupied srv =>
          cases hs : srv.serving with
          | true => rw [performed_present_of_serving t.around c hk hi hn hs]
          | false =>
              rw [hn] at hh
              exact (performed_present_of_idle hf c hk hi hn (hh.idle hs)).elsewhere j hj

end Performed

/-- One reconciliation keeps every namespace tidy. -/
theorem tidy_performed (t : Turn σ) (hf : t.around.host.Faithful view) {owed : String → Bool}
    {n : RelayNode σ} (h : ∀ k, (n k).Tidy view (owed k)) (k : String) :
    ((c.performed t.around.ops t.call n).2 k).Tidy view
      (t.removalOwed k (c.performed t.around.ops t.call n).1 (owed k)) := by
  cases hj : t.around.netns? t.call.pod with
  | none =>
      obtain ⟨e, he⟩ := t.around.performed_of_none c hj n
      rw [he, Turn.removalOwed_of_ne (by rw [hj]; exact (Option.some_ne_none k).symm)]
      exact h k
  | some j =>
      by_cases hk : k = j
      · subst hk
        cases hi : t.call.intent with
        | absent => exact c.tidy_performed_absent hf hj hi (h k)
        | present options => exact c.tidy_performed_present hf hj hi (h k)
      · rw [c.performed_elsewhere hf (h j).honest hj hk,
          Turn.removalOwed_of_ne (by rw [hj]; exact fun he => hk (Option.some.inj he).symm)]
        exact h k

/-! ### Runs -/

variable (start : Supervised (RelayNode σ))

/-- The node after a run, whose latest turn is the first. -/
def ran : List (Turn σ) → Supervised (RelayNode σ)
  | [] => start
  | t :: earlier => (c.reconcile t.around.ops t.call (ran earlier)).2.2

/-- The outcome of a turn after earlier ones. -/
def outcome (t : Turn σ) (earlier : List (Turn σ)) : Except Failure Unit :=
  (c.reconcile t.around.ops t.call (c.ran start earlier)).1

/-- Whether a removal is owed to a namespace after a run. -/
def removalOwed (k : String) : List (Turn σ) → Bool
  | [] => false
  | t :: earlier => t.removalOwed k (c.outcome start t earlier) (removalOwed k earlier)

theorem ran_cons (t : Turn σ) (earlier : List (Turn σ)) :
    (c.ran start (t :: earlier)).node =
      (c.performed t.around.ops t.call (c.ran start earlier).node).2 :=
  (c.reconcile_eq_performed t.around.ops t.call (c.ran start earlier)).2

theorem outcome_eq (t : Turn σ) (earlier : List (Turn σ)) :
    c.outcome start t earlier =
      (c.performed t.around.ops t.call (c.ran start earlier).node).1 :=
  (c.reconcile_eq_performed t.around.ops t.call (c.ran start earlier)).1

variable {start}

/-- A run keeps every namespace tidy. -/
theorem tidy_ran (hstart : ∀ k, (start.node k).Tidy view false) (turns : List (Turn σ))
    (hf : ∀ t ∈ turns, t.around.host.Faithful view) (k : String) :
    ((c.ran start turns).node k).Tidy view (c.removalOwed start k turns) := by
  induction turns generalizing k with
  | nil => exact hstart k
  | cons t earlier ih =>
      rw [ran_cons, removalOwed, outcome_eq]
      have hearlier := ih fun t' ht' => hf t' (List.mem_cons_of_mem t ht')
      exact c.tidy_performed t (hf t List.mem_cons_self) hearlier k

/-- What is left of the redirect in a namespace when a call for its relay's absence succeeds: its
rules if the relay was not serving, and none if it was. Rules are left only where an earlier
removal failed and no relay has been present since. -/
theorem absent_ok_leaves (hstart : ∀ k, (start.node k).Tidy view false) (t : Turn σ)
    (earlier : List (Turn σ)) (hf : ∀ t' ∈ t :: earlier, t'.around.host.Faithful view)
    (ha : t.call.intent = .absent) (hok : c.outcome start t earlier = .ok ()) :
    ∃ k, t.around.netns? t.call.pod = some k ∧
      (((c.ran start (t :: earlier)).node k).owned view = [] ↔
        ((c.ran start earlier).node k).probe = .active ∨
          ((c.ran start earlier).node k).owned view = []) ∧
      (c.removalOwed start k earlier = false →
        ((c.ran start (t :: earlier)).node k).owned view = []) := by
  rw [outcome_eq] at hok
  cases hk : t.around.netns? t.call.pod with
  | none =>
      obtain ⟨e, he⟩ := t.around.performed_of_none c hk (c.ran start earlier).node
      rw [he] at hok
      cases hok
  | some k =>
      have htidy := c.tidy_ran hstart earlier (fun t' ht' => hf t' (List.mem_cons_of_mem t ht')) k
      have howned :=
        c.owned_performed_absent (hf t List.mem_cons_self) hk ha htidy.honest hok
      rw [← ran_cons] at howned
      refine ⟨k, rfl, howned, fun howed => howned.2 ?_⟩
      by_cases hp : ((c.ran start earlier).node k).probe = .active
      · exact Or.inl hp
      · refine Or.inr (by_contra fun hne => ?_)
        have := htidy.rules hp hne
        rw [howed] at this
        cases this

end RelayController

/-! ### A node on the loopback interface -/

/-- A host whose packet filter refuses every transaction. -/
def busyHost : RelayHost Loopback :=
  { Loopback.host with
    nft := { Loopback.nftOps with run := fun _ l => (.error (ScriptedNft.failure "busy"), l) } }

theorem faithful_busyHost : busyHost.Faithful fun l => l.nft.ruleset where
  nft :=
    { list_view := fun _ => rfl
      list_ok := Loopback.faithful_host.nft.list_ok
      run_ok := fun _ _ h => by cases h
      run_error := fun _ _ _ _ => rfl }
  resolve_view := Loopback.faithful_host.resolve_view
  bind_view := Loopback.faithful_host.bind_view
  release_view := Loopback.faithful_host.release_view

/-- A node without relays. -/
def vacantNode : Supervised (RelayNode Loopback) where
  node := fun _ => .vacant {}

theorem tidy_vacantNode (k : String) :
    (vacantNode.node k).Tidy (fun l => l.nft.ruleset) false :=
  ⟨trivial, fun _ h => absurd rfl h⟩

def loopbackController : RelayController where
  nodeName := "node-1"

/-- A turn for a pod that is found. -/
def loopbackTurn (host : RelayHost Loopback) (intent : Intent) : Turn Loopback where
  around :=
    { container := fun _ => .ok ⟨.containerd, "6f1c"⟩
      networkNamespace := fun _ => .ok "/proc/7/ns/net"
      host := host }
  call := ⟨⟨"blue", "shop-1"⟩, intent⟩

/-- The relay of the pod starts. -/
def loopbackPresent : Turn Loopback :=
  loopbackTurn Loopback.host (.present ⟨"127.0.0.1", 31000, 8080, 50010⟩)

namespace RelayController

/-- The relay starts and programs its redirect, which is gone once the relay is absent. -/
theorem loopback_redirect_removed :
    ((loopbackController.ran vacantNode [loopbackPresent]).node "/proc/7/ns/net").owned
        (fun l => l.nft.ruleset) ≠ [] ∧
      ((loopbackController.ran vacantNode
          [loopbackTurn Loopback.host .absent, loopbackPresent]).node "/proc/7/ns/net").owned
        (fun l => l.nft.ruleset) = [] := by
  refine ⟨by decide, ?_⟩
  have hf : ∀ t ∈ [loopbackTurn Loopback.host .absent, loopbackPresent],
      t.around.host.Faithful fun l => l.nft.ruleset := by
    refine List.forall_mem_cons.2 ⟨Loopback.faithful_host, ?_⟩
    exact List.forall_mem_singleton.2 Loopback.faithful_host
  obtain ⟨k, hk, -, hleft⟩ := absent_ok_leaves loopbackController tidy_vacantNode
    (loopbackTurn Loopback.host .absent) [loopbackPresent] hf rfl rfl
  cases hk
  exact hleft rfl

/-- No rule of a relay is left once a call for the relay's absence has succeeded. -/
def AbsentRemoves : Prop :=
  ∀ (σ : Type) (view : σ → Ruleset) (c : RelayController) (start : Supervised (RelayNode σ))
    (t : Turn σ) (earlier : List (Turn σ)) (k : String),
    (∀ j, (start.node j).Tidy view false) → (∀ t' ∈ t :: earlier, t'.around.host.Faithful view) →
    t.call.intent = .absent → c.outcome start t earlier = .ok () →
    t.around.netns? t.call.pod = some k →
    ((c.ran start (t :: earlier)).node k).owned view = []

/-- After a removal that failed, the next one finds an idle relay, and succeeds with the rules in
place. -/
theorem absent_not_always_removes : ¬ AbsentRemoves := by
  intro h
  have hf : ∀ t ∈ [loopbackTurn Loopback.host .absent, loopbackTurn busyHost .absent,
      loopbackPresent], t.around.host.Faithful fun l => l.nft.ruleset := by
    refine List.forall_mem_cons.2 ⟨Loopback.faithful_host, ?_⟩
    refine List.forall_mem_cons.2 ⟨faithful_busyHost, ?_⟩
    exact List.forall_mem_singleton.2 Loopback.faithful_host
  have hempty := h Loopback (fun l => l.nft.ruleset) loopbackController vacantNode
    (loopbackTurn Loopback.host .absent) [loopbackTurn busyHost .absent, loopbackPresent]
    "/proc/7/ns/net" tidy_vacantNode hf rfl rfl rfl
  exact absurd hempty (by decide)

end RelayController

end WafControl
