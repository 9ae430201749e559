import WafControl.Forwarding.Loopback
import WafControl.Proofs.Programming

/-!
# What the relay's control interface does

A relay server is honest if its health says that it is serving exactly while it has a forwarder, and
idle if it has none. Stopping makes an honest server idle before it removes the rules, so that a
removal that fails leaves an idle server with its rules in place. A start that is refused or fails
leaves an idle server idle, and adds no rules to a chain without rules of a relay.
-/

namespace WafControl

/-- A namespace whose operations change its ruleset only by transactions. -/
structure RelayHost.Faithful {σ : Type} (env : RelayHost σ) (view : σ → Ruleset) : Prop where
  nft : env.nft.Faithful view
  resolve_view : ∀ name port s, view (env.resolve name port s).2 = view s
  bind_view : ∀ address gateways s, view (env.bind address gateways s).2 = view s
  release_view : ∀ s, view (env.release s) = view s

/-- A namespace with a packet filter of its own is faithful if the packet filter is. -/
theorem Loopback.faithful_host : Loopback.host.Faithful fun l => l.nft.ruleset where
  nft :=
    { list_view := fun _ => rfl
      list_ok := fun l => ScriptedNft.faithful_ops.list_ok l.nft
      run_ok := fun tx l => ScriptedNft.faithful_ops.run_ok tx l.nft
      run_error := fun tx l => ScriptedNft.faithful_ops.run_error tx l.nft }
  resolve_view := fun _ _ _ => rfl
  bind_view := by
    intro address gateways l
    simp only [Loopback.host, Loopback.bind]
    split
    · rfl
    · split
      · rfl
      · rfl
  release_view := fun _ => rfl

namespace RelayServer

variable {σ : Type}

/-- The health says that the server is serving exactly while it has a forwarder. -/
def Honest (srv : RelayServer σ) : Prop := srv.serving = srv.active.isSome

/-- The server has no forwarder, and says so. -/
structure Idle (srv : RelayServer σ) : Prop where
  active : srv.active = none
  serving : srv.serving = false

/-- The rules of a relay in the chain of the server's namespace. -/
def owned (view : σ → Ruleset) (srv : RelayServer σ) : List NftRule := (view srv.host).ownedRules

theorem Idle.honest {srv : RelayServer σ} (h : srv.Idle) : srv.Honest := by
  rw [Honest, h.active, h.serving]
  rfl

theorem Honest.idle {srv : RelayServer σ} (h : srv.Honest) (hs : srv.serving = false) :
    srv.Idle := by
  refine ⟨?_, hs⟩
  rw [Honest, hs] at h
  exact Option.isSome_eq_false_iff.1 h.symm |> Option.isNone_iff_eq_none.1

theorem stopForwarder_idle (env : RelayHost σ) {srv : RelayServer σ} (h : srv.Honest) :
    (srv.stopForwarder env).Idle := by
  unfold stopForwarder
  cases ha : srv.active with
  | none => exact ⟨ha, by rw [h, ha]; rfl⟩
  | some options => exact ⟨rfl, rfl⟩

variable {env : RelayHost σ} {view : σ → Ruleset} (hf : env.Faithful view)

include hf in
theorem view_stopForwarder (srv : RelayServer σ) :
    view (srv.stopForwarder env).host = view srv.host := by
  unfold stopForwarder
  cases srv.active with
  | none => rfl
  | some options => exact hf.release_view srv.host

theorem deactivate_eq (srv : RelayServer σ) :
    (srv.deactivate env).2 = { srv.stopForwarder env with
      host := (Programmer.program env.nft .delete (srv.stopForwarder env).host).2 } := by
  unfold deactivate
  simp only
  split
  · rename_i e host h
    rw [h]
  · rename_i host h
    rw [h]

theorem deactivate_ok_iff (srv : RelayServer σ) :
    (srv.deactivate env).1 = .ok () ↔
      (Programmer.program env.nft .delete (srv.stopForwarder env).host).1 = .ok () := by
  unfold deactivate
  simp only
  split
  · rename_i e host h
    simp [h]
  · rename_i host h
    simp [h]

/-- Whether or not the removal succeeds, the server is idle then. -/
theorem deactivate_idle (env : RelayHost σ) {srv : RelayServer σ} (h : srv.Honest) :
    (srv.deactivate env).2.Idle := by
  have hi := stopForwarder_idle env h
  rw [deactivate_eq]
  exact ⟨hi.active, hi.serving⟩

include hf in
theorem owned_deactivate_ok {srv : RelayServer σ} (h : (srv.deactivate env).1 = .ok ()) :
    (srv.deactivate env).2.owned view = [] := by
  rw [deactivate_eq, owned]
  exact Programmer.ownedRules_of_delete hf.nft ((deactivate_ok_iff srv).1 h)

include hf in
theorem owned_deactivate_error {srv : RelayServer σ} {status : Status}
    (h : (srv.deactivate env).1 = .error status) :
    (srv.deactivate env).2.owned view = srv.owned view := by
  rw [deactivate_eq, owned]
  cases hp : (Programmer.program env.nft .delete (srv.stopForwarder env).host).1 with
  | ok u =>
      rw [(deactivate_ok_iff srv).2 hp] at h
      cases h
  | error e =>
      have hv := Programmer.program_error hf.nft hp
      simp only [hv, view_stopForwarder hf, owned]

/-- What a start makes of an idle server: it fails and the server stays idle, with no more rules of
a relay than before, or it succeeds and the server serves with its options. -/
inductive Started (view : σ → Ruleset) (before : RelayServer σ) :
    Except Status Unit × RelayServer σ → Prop
  | failed (status : Status) {after : RelayServer σ} (idle : after.Idle)
      (rules : after.owned view = before.owned view ∨ after.owned view = []) :
      Started view before (.error status, after)
  | serving (options : RelayOptions) (host : σ) :
      Started view before (.ok (), ⟨some options, true, host⟩)

include hf in
theorem started_activate (listen : Ip) (options : RelayOptions) (gateways : List SocketAddress)
    {srv : RelayServer σ} (h : srv.Idle) :
    Started view srv (activate env listen options gateways srv) := by
  have hb := hf.bind_view (listenAddress listen options) gateways srv.host
  unfold activate
  simp only
  split
  · rename_i why host hbind
    rw [hbind] at hb
    exact .failed _ ⟨h.active, h.serving⟩ (Or.inl (congrArg Ruleset.ownedRules hb))
  · rename_i host hbind
    rw [hbind] at hb
    split
    · rename_i e host' hadd
      have ha := Programmer.program_error hf.nft (congrArg Prod.fst hadd)
      rw [hadd] at ha
      refine .failed _ ⟨h.active, h.serving⟩ (Or.inl (congrArg Ruleset.ownedRules ?_))
      exact ((hf.release_view host').trans ha).trans hb
    · exact .serving options _

include hf in
/-- A start of an idle server removes what an earlier relay left before it does anything else. -/
theorem started_start (listen : Ip) (options : RelayOptions) {srv : RelayServer σ}
    (h : srv.Idle) : Started view srv (srv.start env listen options) := by
  have hi := deactivate_idle env h.honest
  unfold start
  rw [if_neg (by rw [h.active]; exact Option.some_ne_none options |>.symm)]
  split
  · rename_i status srv' hd
    have ho := owned_deactivate_error hf (congrArg Prod.fst hd)
    rw [hd] at hi ho
    exact .failed status hi (Or.inl ho)
  · rename_i srv' hd
    have ho := owned_deactivate_ok hf (congrArg Prod.fst hd)
    rw [hd] at hi ho
    have hr := hf.resolve_view options.gatewayFqdn options.gatewayPort srv'.host
    split
    · rename_i why host hres
      rw [hres] at hr
      refine .failed _ ⟨hi.active, hi.serving⟩ (Or.inr ?_)
      exact (congrArg Ruleset.ownedRules hr).trans ho
    · rename_i host hres
      rw [hres] at hr
      refine .failed _ ⟨hi.active, hi.serving⟩ (Or.inr ?_)
      exact (congrArg Ruleset.ownedRules hr).trans ho
    · rename_i g gs host hres
      rw [hres] at hr
      have hown : owned view { srv' with host } = [] :=
        (congrArg Ruleset.ownedRules hr).trans ho
      have hidle : Idle { srv' with host } := ⟨hi.active, hi.serving⟩
      have hact := started_activate hf listen options (g :: gs) hidle
      revert hact
      generalize activate env listen options (g :: gs) { srv' with host } = result
      rintro (⟨status, hidle, hrules⟩ | ⟨o, host'⟩)
      · rw [hown, or_self] at hrules
        exact .failed status hidle (Or.inr hrules)
      · exact .serving o host'

include hf in
theorem started_startRelay (listen : Ip) (request : Option StartRequest) {srv : RelayServer σ}
    (h : srv.Idle) : Started view srv (srv.startRelay env listen request) := by
  unfold startRelay
  split
  · exact .failed _ h (Or.inl rfl)
  · exact started_start hf listen _ h

end RelayServer

end WafControl
