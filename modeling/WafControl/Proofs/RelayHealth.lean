import WafControl.Proofs.RelayTable
import WafControl.Proofs.Serving

/-!
# The health of a relay is true

Requests to start and to stop reach a relay server one after the other, and whatever the server
needs of its namespace may fail at any point of each. Between two requests the server says that it
is serving exactly while a forwarder runs (`health_true`). The forwarder then forwards to what the
gateway was resolved to, the relay's chain holds the redirect of the active options alone, and the
set beside it holds the IPv4 addresses of the gateway.
-/

namespace WafControl

/-- A faithful namespace whose forwarder is in view, by its port and the gateways it forwards to. It
runs from a bind that succeeds until it is released. -/
structure RelayHost.Open {σ : Type} (env : RelayHost σ) (view : σ → Ruleset)
    (forwarder : σ → Option (UInt16 × List SocketAddress)) : Prop extends env.Faithful view where
  list_forwarder : ∀ s, forwarder (env.nft.list s).2 = forwarder s
  run_forwarder : ∀ tx s, forwarder (env.nft.run tx s).2 = forwarder s
  resolve_forwarder : ∀ name port s, forwarder (env.resolve name port s).2 = forwarder s
  bind_ok : ∀ address gateways s, (env.bind address gateways s).1 = .ok () →
    forwarder (env.bind address gateways s).2 = some (address.port, gateways)
  bind_error : ∀ address gateways s why, (env.bind address gateways s).1 = .error why →
    forwarder (env.bind address gateways s).2 = forwarder s
  release_forwarder : ∀ s, forwarder (env.release s) = none

theorem Ip.v4?_eq_some_iff {ip : Ip} {ip' : Ipv4} : ip.v4? = some ip' ↔ ip = .v4 ip' := by
  cases ip with
  | v4 ip => simp [v4?]
  | v6 ip => simp [v4?]

/-- The redirect for options whose gateway was resolved. -/
def RelayOptions.redirect (options : RelayOptions) (gateways : List SocketAddress) : Redirect where
  gatewayIps := gateways.filterMap fun a => a.ip.v4?
  appPort := options.appPort
  relayPort := options.relayPort

namespace RelayServer

variable {σ : Type}

/-- What a start resolves the gateway to, if it comes to that. -/
def resolution? (env : RelayHost σ) (options : RelayOptions) (srv : RelayServer σ) :
    Option (List SocketAddress) :=
  if srv.active = some options then none
  else
    match srv.deactivate env with
    | (.error _, _) => none
    | (.ok (), srv) =>
      (env.resolve options.gatewayFqdn options.gatewayPort srv.host).1.toOption

end RelayServer

/-! ### Runs of requests -/

/-- A request to a relay server. -/
inductive RelayRequest where
  | start (request : Option StartRequest)
  | stop
  deriving DecidableEq, Repr

/-- A request, and the namespace as it behaves meanwhile. -/
structure ServedRequest (σ : Type) where
  host : RelayHost σ
  request : RelayRequest

/-- A relay server, and what the requests to it came to. -/
structure RelayService (σ : Type) where
  server : RelayServer σ
  /-- The options of the last start that succeeded. -/
  started : Option RelayOptions := none
  /-- What the gateway was resolved to when a forwarder was last started. -/
  resolved : List SocketAddress := []

namespace RelayService

variable {σ : Type}

def start (listen : Ip) (env : RelayHost σ) (request : Option StartRequest) (s : RelayService σ) :
    RelayService σ :=
  match RelayOptions.ofRequest request, s.server.startRelay env listen request with
  | .ok options, (.ok (), server) =>
    { server
      started := some options
      resolved := (s.server.resolution? env options).getD s.resolved }
  | _, (_, server) => { s with server }

def step (listen : Ip) (s : RelayService σ) (q : ServedRequest σ) : RelayService σ :=
  match q.request with
  | .start request => s.start listen q.host request
  | .stop => { s with server := (s.server.stopRelay q.host).2 }

/-- The server after requests, the earliest of which is the first. -/
def run (listen : Ip) (s : RelayService σ) (requests : List (ServedRequest σ)) : RelayService σ :=
  requests.foldl (step listen) s

end RelayService

/-! ### What a request does -/

namespace RelayServer

variable {σ : Type} (view : σ → Ruleset) (forwarder : σ → Option (UInt16 × List SocketAddress))

/-- The health is true, and the ruleset as a relay leaves it. -/
structure Upright (srv : RelayServer σ) : Prop where
  honest : srv.Honest
  forwarder : srv.active = none → forwarder srv.host = none
  ruleset : (view srv.host).AsLeft

/-- The server is idle, and nothing forwards. -/
structure Down (srv : RelayServer σ) : Prop where
  idle : srv.Idle
  forwarder : forwarder srv.host = none
  ruleset : (view srv.host).AsLeft

/-- The server serves with options whose gateway was resolved. -/
structure Serves (options : RelayOptions) (gateways : List SocketAddress) (srv : RelayServer σ) :
    Prop where
  active : srv.active = some options
  serving : srv.serving = true
  forwarder : forwarder srv.host = some (options.relayPort, gateways)
  table : (view srv.host).relayTable? = some (options.redirect gateways).table

/-- What a start comes to. -/
inductive Launched (options : RelayOptions) (gateways : List SocketAddress) :
    Except Status Unit × RelayServer σ → Prop
  | failed (status : Status) {after : RelayServer σ} (down : Down view forwarder after) :
      Launched options gateways (.error status, after)
  | serving {after : RelayServer σ} (serves : Serves view forwarder options gateways after) :
      Launched options gateways (.ok (), after)

variable {view forwarder} {env : RelayHost σ} {srv : RelayServer σ}

theorem Down.upright (h : Down view forwarder srv) : Upright view forwarder srv :=
  ⟨h.idle.honest, fun _ => h.forwarder, h.ruleset⟩

theorem Serves.upright {options : RelayOptions} {gateways : List SocketAddress}
    (h : Serves view forwarder options gateways srv) : Upright view forwarder srv where
  honest := by rw [Honest, h.active, h.serving]; rfl
  forwarder := fun ha => by rw [h.active] at ha; cases ha
  ruleset := Or.inr ⟨_, h.table⟩

variable (hf : env.Open view forwarder)

include hf in
theorem forwarder_program (op : RedirectOp) (s : σ) :
    forwarder (Programmer.program env.nft op s).2 = forwarder s := by
  have hl := hf.list_forwarder s
  cases ha : (Programmer.applied env.nft s).1 with
  | error e =>
      rw [Programmer.program_of_error ha]
      exact hl
  | ok b =>
      rw [Programmer.program_of_ok ha]
      split
      · exact hl
      · exact (hf.run_forwarder _ _).trans hl

include hf in
theorem down_stopForwarder (h : Upright view forwarder srv) :
    Down view forwarder (srv.stopForwarder env) := by
  have hview := view_stopForwarder hf.toFaithful srv
  refine ⟨stopForwarder_idle env h.honest, ?_, by rw [hview]; exact h.ruleset⟩
  unfold stopForwarder
  cases ha : srv.active with
  | none => exact h.forwarder ha
  | some options => exact hf.release_forwarder srv.host

include hf in
/-- A removal that fails changes nothing, and one that succeeds leaves no table. -/
theorem view_deactivate (h : Upright view forwarder srv) :
    view (srv.deactivate env).2.host = view srv.host ∧ (srv.deactivate env).1 ≠ .ok () ∨
      (view (srv.deactivate env).2.host).relayTable? = none := by
  have hdown := down_stopForwarder hf h
  rw [deactivate_eq]
  cases hp : (Programmer.program env.nft .delete (srv.stopForwarder env).host).1 with
  | error e =>
      left
      refine ⟨(Programmer.program_error hf.nft hp).trans (view_stopForwarder hf.toFaithful srv), ?_⟩
      rw [ne_eq, deactivate_ok_iff, hp]
      exact fun hok => by cases hok
  | ok u =>
      right
      exact Programmer.relayTable?_of_delete hf.nft hdown.ruleset hp

include hf in
theorem down_deactivate (h : Upright view forwarder srv) :
    Down view forwarder (srv.deactivate env).2 := by
  refine ⟨deactivate_idle env h.honest, ?_, ?_⟩
  · rw [deactivate_eq]
    exact (forwarder_program hf .delete _).trans (down_stopForwarder hf h).forwarder
  · rcases view_deactivate hf h with ⟨hv, -⟩ | hnone
    · rw [hv]
      exact h.ruleset
    · exact Or.inl hnone

include hf in
theorem launched_activate (listen : Ip) (options : RelayOptions) (gateways : List SocketAddress)
    (h : Down view forwarder srv) (hnone : (view srv.host).relayTable? = none) :
    Launched view forwarder options gateways (activate env listen options gateways srv) := by
  have hbind := hf.bind_view (listenAddress listen options) gateways srv.host
  have hok := hf.bind_ok (listenAddress listen options) gateways srv.host
  have herror := hf.bind_error (listenAddress listen options) gateways srv.host
  unfold activate
  simp only
  split
  · rename_i why host hb
    rw [hb] at hbind herror
    refine .failed _ ⟨⟨h.idle.active, h.idle.serving⟩, (herror why rfl).trans h.forwarder, ?_⟩
    exact Or.inl ((congrArg Ruleset.relayTable? hbind).trans hnone)
  · rename_i host hb
    rw [hb] at hbind hok
    have hempty : (view host).relayTable? = none :=
      (congrArg Ruleset.relayTable? hbind).trans hnone
    split
    · rename_i e host' hadd
      have hv := Programmer.program_error hf.nft (congrArg Prod.fst hadd)
      rw [hadd] at hv
      refine .failed _ ⟨⟨h.idle.active, h.idle.serving⟩, hf.release_forwarder host', Or.inl ?_⟩
      rw [hf.release_view]
      exact (congrArg Ruleset.relayTable? hv).trans hempty
    · rename_i host' hadd
      have ht := Programmer.relayTable?_of_add hf.nft hempty (congrArg Prod.fst hadd)
      have hforward := forwarder_program hf (.add (options.redirect gateways)) host
      unfold RelayOptions.redirect at ht hforward
      rw [hadd] at ht hforward
      exact .serving ⟨rfl, rfl, hforward.trans (hok rfl), ht⟩

include hf in
/-- A start with options that are not active ends with the server down, or serving with what the
gateway was resolved to. -/
theorem launched_start (listen : Ip) {options : RelayOptions} (resolved : List SocketAddress)
    (hne : srv.active ≠ some options) (h : Upright view forwarder srv) :
    Launched view forwarder options ((srv.resolution? env options).getD resolved)
      (srv.start env listen options) := by
  have hdown := down_deactivate hf h
  have hview := view_deactivate hf h
  unfold start resolution?
  rw [if_neg hne, if_neg hne]
  cases hd : srv.deactivate env with
  | mk answer srv' =>
      rw [hd] at hdown hview
      cases answer with
      | error status => exact .failed status hdown
      | ok u =>
          have hnone : (view srv'.host).relayTable? = none :=
            hview.resolve_left fun hfailed => hfailed.2 rfl
          have hv := hf.resolve_view options.gatewayFqdn options.gatewayPort srv'.host
          have hr := hf.resolve_forwarder options.gatewayFqdn options.gatewayPort srv'.host
          have hstill : ∀ host, view host = view srv'.host → forwarder host = forwarder srv'.host →
              Down view forwarder { srv' with host } := fun host hv hr =>
            ⟨⟨hdown.idle.active, hdown.idle.serving⟩, hr.trans hdown.forwarder,
              Or.inl ((congrArg Ruleset.relayTable? hv).trans hnone)⟩
          simp only
          cases hres : env.resolve options.gatewayFqdn options.gatewayPort srv'.host with
          | mk found host =>
              rw [hres] at hv hr
              cases found with
              | error why => exact .failed _ (hstill host hv hr)
              | ok gateways =>
                  cases gateways with
                  | nil => exact .failed _ (hstill host hv hr)
                  | cons g gs =>
                      exact launched_activate hf listen options (g :: gs) (hstill host hv hr)
                        ((congrArg Ruleset.relayTable? hv).trans hnone)

end RelayServer

namespace RelayService

variable {σ : Type} (view : σ → Ruleset) (forwarder : σ → Option (UInt16 × List SocketAddress))

open RelayServer

/-- The server is down, or it serves with the options of the last start that succeeded. -/
def Truthful (s : RelayService σ) : Prop :=
  Down view forwarder s.server ∨
    ∃ options, s.started = some options ∧ Serves view forwarder options s.resolved s.server

variable {view forwarder}

theorem Truthful.upright {s : RelayService σ} (h : s.Truthful view forwarder) :
    Upright view forwarder s.server := by
  rcases h with hdown | ⟨options, -, hserves⟩
  · exact hdown.upright
  · exact hserves.upright

theorem truthful_step (listen : Ip) {s : RelayService σ} {q : ServedRequest σ}
    (hf : q.host.Open view forwarder) (h : s.Truthful view forwarder) :
    (s.step listen q).Truthful view forwarder := by
  unfold step
  cases q.request with
  | stop => exact Or.inl (down_deactivate hf h.upright)
  | start request =>
      simp only [RelayService.start, startRelay]
      cases ho : RelayOptions.ofRequest request with
      | error fault => exact h
      | ok options =>
          simp only
          by_cases hsame : s.server.active = some options
          -- a start with the active options changes nothing
          · have hstart : s.server.start q.host listen options = (.ok (), s.server) := if_pos hsame
            have hres : s.server.resolution? q.host options = none := if_pos hsame
            simp only [hstart, hres, Option.getD_none]
            rcases h with hdown | ⟨options', hstarted, hserves⟩
            · rw [hdown.idle.active] at hsame
              cases hsame
            · rw [hserves.active] at hsame
              cases hsame
              exact Or.inr ⟨options, rfl, hserves⟩
          · have hl := launched_start hf listen s.resolved hsame h.upright
            revert hl
            generalize s.server.start q.host listen options = result
            rintro (⟨status, hdown⟩ | ⟨hserves⟩)
            · exact Or.inl hdown
            · exact Or.inr ⟨options, rfl, hserves⟩

theorem truthful_run (listen : Ip) {s : RelayService σ} (requests : List (ServedRequest σ))
    (hf : ∀ q ∈ requests, q.host.Open view forwarder) (h : s.Truthful view forwarder) :
    (s.run listen requests).Truthful view forwarder := by
  induction requests generalizing s with
  | nil => exact h
  | cons q requests ih =>
      have hrest := fun q' hq' => hf q' (List.mem_cons_of_mem q hq')
      exact ih hrest (truthful_step listen (hf q List.mem_cons_self) h)

/-- Whatever fails on the way, between two requests the server says that it is serving exactly while
a forwarder runs. While it does, its options are those of the last start that succeeded, the
forwarder runs on their relay port for what the gateway was resolved to, the relay's chain holds
the redirect from their application port to their relay port and nothing else, and the set beside it
holds the IPv4 addresses of the gateway. -/
theorem health_true (listen : Ip) {host : σ} (hleft : (view host).AsLeft)
    (hnone : forwarder host = none) (requests : List (ServedRequest σ))
    (hf : ∀ q ∈ requests, q.host.Open view forwarder) :
    let s : RelayService σ := run listen { server := { host } } requests
    (s.server.serving = true ↔ (forwarder s.server.host).isSome) ∧
      (s.server.serving = true → ∃ options chain gateways,
        s.server.active = some options ∧ s.started = some options ∧
        forwarder s.server.host = some (options.relayPort, s.resolved) ∧
        (view s.server.host).relayChain? = some chain ∧
        chain.rules =
          [⟨.redirect options.appPort options.relayPort, some Redirect.ownedComment⟩] ∧
        (view s.server.host).gatewaySet? = some gateways ∧
        ∀ ip, ip ∈ gateways.addresses ↔ ∃ a ∈ s.resolved, a.ip = .v4 ip) := by
  intro s
  have hs : s.Truthful view forwarder :=
    truthful_run listen requests hf (Or.inl ⟨⟨rfl, rfl⟩, hnone, hleft⟩)
  rcases hs with hdown | ⟨options, hstarted, hserves⟩
  · rw [hdown.idle.serving, hdown.forwarder]
    exact ⟨⟨fun h => absurd h Bool.false_ne_true, fun h => absurd h Bool.false_ne_true⟩,
      fun h => absurd h Bool.false_ne_true⟩
  · rw [hserves.serving, hserves.forwarder]
    refine ⟨⟨fun _ => rfl, fun _ => rfl⟩, fun _ => ?_⟩
    refine ⟨options, _, _, hserves.active, hstarted, rfl,
      Ruleset.relayChain?_of_table hserves.table, rfl,
      Ruleset.gatewaySet?_of_table hserves.table, fun ip => ?_⟩
    rw [Redirect.mem_gatewaySet, RelayOptions.redirect, List.mem_filterMap]
    exact exists_congr fun a => and_congr_right fun _ => Ip.v4?_eq_some_iff

end RelayService

/-! ### A relay on the loopback interface -/

theorem Loopback.open_host :
    Loopback.host.Open (fun l => l.nft.ruleset) Loopback.forwarder where
  toFaithful := Loopback.faithful_host
  list_forwarder := fun _ => rfl
  run_forwarder := fun _ _ => rfl
  resolve_forwarder := fun _ _ _ => rfl
  bind_ok := by
    intro address gateways l h
    simp only [host, bind] at h ⊢
    split at h
    · cases h
    · split at h
      · cases h
      · rename_i hrefusal hfree
        rw [if_neg hfree]
  bind_error := by
    intro address gateways l why h
    simp only [host, bind] at h ⊢
    split
    · rfl
    · split
      · rfl
      · rename_i hrefusal hfree
        simp [hrefusal, hfree] at h
  release_forwarder := fun _ => rfl

/-- A host on which no name is resolved. -/
def namelessHost : RelayHost Loopback :=
  { Loopback.host with resolve := fun _ _ l => (.error "Name or service not known", l) }

theorem open_namelessHost : namelessHost.Open (fun l => l.nft.ruleset) Loopback.forwarder :=
  { Loopback.open_host with
    resolve_view := fun _ _ _ => rfl
    resolve_forwarder := fun _ _ _ => rfl }

/-- A namespace with the table that an earlier relay left. -/
def leftLoopback : Loopback where
  gateways := [31000]
  nft := { ruleset := Ruleset.setRelayTable {} (Redirect.table ⟨[⟨10, 0, 0, 7⟩], 8080, 50010⟩) }

/-- The redirect of an earlier relay is replaced, the options change while no name is resolved, and
are then accepted. -/
def relayRequests : List (ServedRequest Loopback) :=
  [ ⟨Loopback.host, .start (some ⟨"127.0.0.1", 31000, 8080, 50010⟩)⟩,
    ⟨namelessHost, .start (some ⟨"127.0.0.1", 31000, 8081, 50011⟩)⟩,
    ⟨Loopback.host, .start (some ⟨"127.0.0.1", 31000, 8081, 50011⟩)⟩,
    ⟨Loopback.host, .start (some ⟨"127.0.0.1", 31000, 70000, 50011⟩)⟩ ]

namespace RelayService

theorem loopback_health_true :
    let s := run (.v4 ⟨0, 0, 0, 0⟩) { server := { host := leftLoopback } } relayRequests
    s.started = some ⟨"127.0.0.1", 31000, 8081, 50011⟩ ∧
      ∃ chain gateways, s.server.host.nft.ruleset.relayChain? = some chain ∧
        chain.rules = [⟨.redirect 8081 50011, some Redirect.ownedComment⟩] ∧
        s.server.host.nft.ruleset.gatewaySet? = some gateways ∧
        ⟨127, 0, 0, 1⟩ ∈ gateways.addresses := by
  intro s
  have hf : ∀ q ∈ relayRequests, q.host.Open (fun l => l.nft.ruleset) Loopback.forwarder := by
    refine List.forall_mem_cons.2 ⟨Loopback.open_host, ?_⟩
    refine List.forall_mem_cons.2 ⟨open_namelessHost, ?_⟩
    refine List.forall_mem_cons.2 ⟨Loopback.open_host, ?_⟩
    exact List.forall_mem_singleton.2 Loopback.open_host
  have hleft : leftLoopback.nft.ruleset.AsLeft := Or.inr ⟨_, Ruleset.relayTable?_setRelayTable _ _⟩
  obtain ⟨-, hserving⟩ := @health_true Loopback (fun l => l.nft.ruleset) Loopback.forwarder
    (.v4 ⟨0, 0, 0, 0⟩) leftLoopback hleft rfl relayRequests hf
  have hs : s.server.serving = true := by decide
  obtain ⟨options, chain, gateways, -, hstarted, -, hchain, hrules, hset, haddresses⟩ := hserving hs
  have hnow : s.started = some ⟨"127.0.0.1", 31000, 8081, 50011⟩ := by decide
  cases hnow.symm.trans hstarted
  refine ⟨hnow, chain, gateways, hchain, hrules, hset, (haddresses _).2 ?_⟩
  exact ⟨⟨.v4 ⟨127, 0, 0, 1⟩, 31000, 0⟩, by decide, rfl⟩

end RelayService

end WafControl
