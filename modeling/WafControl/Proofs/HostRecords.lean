import WafControl.Proofs.ProgrammedRuns
import WafControl.Proofs.RelayHealth

/-!
# What a relay server asks of its namespace

The operations of a namespace can be put on record: each is carried out as before, and noted with
the namespace after it. Being on record changes neither what a request comes to nor the namespace
(`startRelay_recorded`), so the record is what the server asks for.

A start that succeeds with options that are not active yet has gone through all its steps
(`start_ok_steps`), and asks for exactly one operation in each (`calls_start`).
-/

namespace WafControl

/-- An operation of a namespace. -/
inductive HostCall where
  | list
  | run (tx : Transaction)
  | resolve (name : String) (port : UInt16)
  | bind (address : SocketAddress) (gateways : List SocketAddress)
  | release
  deriving DecidableEq, Repr

/-- An operation that was asked for, and the namespace after it. -/
structure HostEvent (σ : Type) where
  call : HostCall
  host : σ

/-- A namespace, and what was asked of it in order. -/
structure RecordedHost (σ : Type) where
  host : σ
  events : List (HostEvent σ) := []

def RecordedHost.note {σ : Type} (r : RecordedHost σ) (call : HostCall) (host : σ) :
    RecordedHost σ :=
  ⟨host, r.events ++ [⟨call, host⟩]⟩

/-- The operations in order, without the namespace. -/
def RecordedHost.calls {σ : Type} (r : RecordedHost σ) : List HostCall :=
  r.events.map HostEvent.call

theorem RecordedHost.calls_note {σ : Type} (r : RecordedHost σ) (call : HostCall) (host : σ) :
    (r.note call host).calls = r.calls ++ [call] :=
  List.map_append

/-- The same operations, put on record. -/
def RelayHost.recorded {σ : Type} (env : RelayHost σ) : RelayHost (RecordedHost σ) where
  nft :=
    { list := fun r => ((env.nft.list r.host).1, r.note .list (env.nft.list r.host).2)
      run := fun tx r => ((env.nft.run tx r.host).1, r.note (.run tx) (env.nft.run tx r.host).2) }
  resolve := fun name port r =>
    ((env.resolve name port r.host).1, r.note (.resolve name port) (env.resolve name port r.host).2)
  bind := fun address gateways r =>
    ((env.bind address gateways r.host).1,
      r.note (.bind address gateways) (env.bind address gateways r.host).2)
  release := fun r => r.note .release (env.release r.host)

namespace RelayHost

variable {σ : Type} (env : RelayHost σ) (r : RecordedHost σ)

theorem recorded_resolve (name : String) (port : UInt16) :
    env.recorded.resolve name port r =
      ((env.resolve name port r.host).1,
        r.note (.resolve name port) (env.resolve name port r.host).2) := rfl

theorem recorded_bind (address : SocketAddress) (gateways : List SocketAddress) :
    env.recorded.bind address gateways r =
      ((env.bind address gateways r.host).1,
        r.note (.bind address gateways) (env.bind address gateways r.host).2) := rfl

end RelayHost

/-- A server whose namespace is put on record from now on. -/
def RelayServer.recorded {σ : Type} (srv : RelayServer σ) : RelayServer (RecordedHost σ) :=
  ⟨srv.active, srv.serving, ⟨srv.host, []⟩⟩

/-- The server without the record. -/
def RelayServer.unrecorded {σ : Type} (srv : RelayServer (RecordedHost σ)) : RelayServer σ :=
  ⟨srv.active, srv.serving, srv.host.host⟩

/-! ### Being on record -/

namespace RelayServer

section Recording

variable {σ : Type} (env : RelayHost σ)

theorem program_recorded (op : RedirectOp) (r : RecordedHost σ) :
    Prod.map id RecordedHost.host (Programmer.program env.recorded.nft op r) =
      Programmer.program env.nft op r.host := by
  have hsame : (Programmer.applied env.recorded.nft r).1 = (Programmer.applied env.nft r.host).1 :=
    rfl
  cases ha : (Programmer.applied env.nft r.host).1 with
  | error e =>
      rw [Programmer.program_of_error ha, Programmer.program_of_error (hsame.trans ha)]
      rfl
  | ok b =>
      rw [Programmer.program_of_ok ha, Programmer.program_of_ok (hsame.trans ha)]
      split
      · rfl
      · rfl

theorem deactivate_recorded (srv : RelayServer (RecordedHost σ)) :
    Prod.map id unrecorded (srv.deactivate env.recorded) = srv.unrecorded.deactivate env := by
  have hstop : (srv.stopForwarder env.recorded).unrecorded = srv.unrecorded.stopForwarder env := by
    unfold stopForwarder
    cases ha : srv.active with
    | none => simp [unrecorded, ha]
    | some options => simp [unrecorded, ha, RelayHost.recorded, RecordedHost.note]
  have hprogram := program_recorded env .delete (srv.stopForwarder env.recorded).host
  unfold deactivate
  rw [← hstop]
  simp only
  rw [show (srv.stopForwarder env.recorded).unrecorded.host =
    (srv.stopForwarder env.recorded).host.host from rfl, ← hprogram]
  cases Programmer.program env.recorded.nft .delete (srv.stopForwarder env.recorded).host with
  | mk answer r =>
      cases answer with
      | error e => rfl
      | ok u => rfl

theorem activate_recorded (listen : Ip) (options : RelayOptions) (gateways : List SocketAddress)
    (srv : RelayServer (RecordedHost σ)) :
    Prod.map id unrecorded (activate env.recorded listen options gateways srv) =
      activate env listen options gateways srv.unrecorded := by
  unfold activate
  simp only [env.recorded_bind, unrecorded]
  cases env.bind (listenAddress listen options) gateways srv.host.host with
  | mk answer host =>
      cases answer with
      | error why => rfl
      | ok u =>
          have hprogram := program_recorded env (.add (options.redirect gateways))
            (srv.host.note (.bind (listenAddress listen options) gateways) host)
          unfold RelayOptions.redirect at hprogram
          simp only [RecordedHost.note] at hprogram ⊢
          rw [← hprogram]
          generalize Programmer.program env.recorded.nft _ _ = programmed
          obtain ⟨answer, r⟩ := programmed
          cases answer with
          | error e => rfl
          | ok u => rfl

theorem start_recorded (listen : Ip) (options : RelayOptions)
    (srv : RelayServer (RecordedHost σ)) :
    Prod.map id unrecorded (srv.start env.recorded listen options) =
      srv.unrecorded.start env listen options := by
  unfold start
  rw [show srv.unrecorded.active = srv.active from rfl, ← deactivate_recorded]
  split
  · rfl
  · cases srv.deactivate env.recorded with
    | mk answer srv₁ =>
        cases answer with
        | error status => rfl
        | ok u =>
            simp only [Prod.map, id, env.recorded_resolve]
            rw [show srv₁.unrecorded.host = srv₁.host.host from rfl]
            cases env.resolve options.gatewayFqdn options.gatewayPort srv₁.host.host with
            | mk found host =>
                cases found with
                | error why => rfl
                | ok gateways =>
                    cases gateways with
                    | nil => rfl
                    | cons g gs => exact activate_recorded env listen options (g :: gs) _

/-- Being on record changes neither what a request comes to nor the namespace. -/
theorem startRelay_recorded (listen : Ip) (request : Option StartRequest)
    (srv : RelayServer σ) :
    Prod.map id unrecorded (srv.recorded.startRelay env.recorded listen request) =
      srv.startRelay env listen request := by
  unfold startRelay
  cases RelayOptions.ofRequest request with
  | error fault => rfl
  | ok options => exact start_recorded env listen options srv.recorded

end Recording

/-! ### The steps of a start -/

section Steps

variable {σ : Type} {env : RelayHost σ} {srv : RelayServer σ} {options : RelayOptions}
  {listen : Ip}

/-- What a start with other options has done when it succeeds: the server went idle and without
rules, the gateway was resolved, a forwarder was bound and the redirect was programmed. -/
structure Steps (env : RelayHost σ) (listen : Ip) (options : RelayOptions)
    (srv idle : RelayServer σ) (gateways : List SocketAddress) (resolved bound done : σ) :
    Prop where
  stop : srv.deactivate env = (.ok (), idle)
  resolve : env.resolve options.gatewayFqdn options.gatewayPort idle.host =
    (.ok gateways, resolved)
  nonempty : gateways ≠ []
  bind : env.bind (listenAddress listen options) gateways resolved = (.ok (), bound)
  program : Programmer.program env.nft (.add (options.redirect gateways)) bound = (.ok (), done)
  result : srv.start env listen options = (.ok (), ⟨some options, true, done⟩)

theorem activate_ok_steps {gateways : List SocketAddress} {idle : RelayServer σ}
    (h : (activate env listen options gateways idle).1 = .ok ()) :
    ∃ bound done, env.bind (listenAddress listen options) gateways idle.host = (.ok (), bound) ∧
      Programmer.program env.nft (.add (options.redirect gateways)) bound = (.ok (), done) ∧
      activate env listen options gateways idle = (.ok (), ⟨some options, true, done⟩) := by
  unfold activate at h ⊢
  simp only at h ⊢
  cases hb : env.bind (listenAddress listen options) gateways idle.host with
  | mk answer bound =>
      rw [hb] at h
      cases answer with
      | error why => cases h
      | ok u =>
          simp only at h ⊢
          cases hp : Programmer.program env.nft (.add (options.redirect gateways)) bound with
          | mk answer done =>
              rw [show options.redirect gateways = ⟨_, _, _⟩ from rfl] at hp
              rw [hp] at h ⊢
              cases answer with
              | error e => cases h
              | ok u => exact ⟨bound, done, rfl, hp, rfl⟩

theorem start_ok_steps (hne : srv.active ≠ some options)
    (h : (srv.start env listen options).1 = .ok ()) :
    ∃ idle gateways resolved bound done,
      Steps env listen options srv idle gateways resolved bound done := by
  have hstart : srv.start env listen options = _ := if_neg hne
  cases hd : srv.deactivate env with
  | mk answer idle =>
      rw [hd] at hstart
      cases answer with
      | error status =>
          rw [hstart] at h
          cases h
      | ok u =>
          simp only at hstart
          cases hr : env.resolve options.gatewayFqdn options.gatewayPort idle.host with
          | mk found resolved =>
              rw [hr] at hstart
              cases found with
              | error why =>
                  rw [hstart] at h
                  cases h
              | ok gateways =>
                  cases gateways with
                  | nil =>
                      rw [hstart] at h
                      cases h
                  | cons g gs =>
                      rw [hstart] at h
                      obtain ⟨bound, done, hb, hp, ha⟩ := activate_ok_steps h
                      exact ⟨idle, g :: gs, resolved, bound, done, hd, hr,
                        List.cons_ne_nil g gs, hb, hp, hstart.trans ha⟩

end Steps

/-! ### What a start asks for -/

section Calls

variable {σ : Type} {env : RelayHost σ} {view : σ → Ruleset}
  {forwarder : σ → Option (UInt16 × List SocketAddress)}

theorem open_recorded (hf : env.Open view forwarder) :
    env.recorded.Open (fun r => view r.host) fun r => forwarder r.host where
  nft :=
    { list_view := fun r => hf.nft.list_view r.host
      list_ok := fun r => hf.nft.list_ok r.host
      run_ok := fun tx r => hf.nft.run_ok tx r.host
      run_error := fun tx r => hf.nft.run_error tx r.host }
  resolve_view := fun name port r => hf.resolve_view name port r.host
  bind_view := fun address gateways r => hf.bind_view address gateways r.host
  release_view := fun r => hf.release_view r.host
  list_forwarder := fun r => hf.list_forwarder r.host
  run_forwarder := fun tx r => hf.run_forwarder tx r.host
  resolve_forwarder := fun name port r => hf.resolve_forwarder name port r.host
  bind_ok := fun address gateways r => hf.bind_ok address gateways r.host
  bind_error := fun address gateways r => hf.bind_error address gateways r.host
  release_forwarder := fun r => hf.release_forwarder r.host

/-- Programming lists the ruleset, and runs a transaction if one is called for. -/
theorem calls_program (hf : env.Open view forwarder) (op : RedirectOp) {r : RecordedHost σ}
    (hok : (Programmer.program env.recorded.nft op r).1 = .ok ()) :
    let tx := Programmer.transaction (Programmer.carriesOwned (view r.host).relayComments) op
    (Programmer.program env.recorded.nft op r).2.calls =
      r.calls ++ .list :: (if tx = [] then [] else [.run tx]) := by
  intro tx
  cases ha : (Programmer.applied env.recorded.nft r).1 with
  | error e =>
      rw [Programmer.program_of_error ha] at hok
      cases hok
  | ok b =>
      have hb : b = Programmer.carriesOwned (view r.host).relayComments :=
        Programmer.applied_ok (open_recorded hf).nft ha
      rw [Programmer.program_of_ok ha, hb]
      split
      · exact List.map_append
      · simp [RecordedHost.calls, RelayHost.recorded, RecordedHost.note, Programmer.applied, tx]

theorem calls_delete (hf : env.Open view forwarder) {r : RecordedHost σ}
    (hok : (Programmer.program env.recorded.nft .delete r).1 = .ok ()) :
    (Programmer.program env.recorded.nft .delete r).2.calls =
      r.calls ++ .list ::
        (if (view r.host).ownedRules = [] then [] else [.run Redirect.removal]) := by
  rw [calls_program hf .delete hok]
  by_cases howned : (view r.host).ownedRules = []
  · rw [if_pos howned, (Ruleset.carriesOwned_relayComments_eq_false _).2 howned]
    rfl
  · rw [if_neg howned, (Ruleset.carriesOwned_relayComments _).2 howned]
    rfl

theorem calls_add (hf : env.Open view forwarder) {r : RecordedHost σ} {redirect : Redirect}
    (hnone : (view r.host).ownedRules = [])
    (hok : (Programmer.program env.recorded.nft (.add redirect) r).1 = .ok ()) :
    (Programmer.program env.recorded.nft (.add redirect) r).2.calls =
      r.calls ++ [.list, .run redirect.addition] := by
  rw [calls_program hf _ hok, (Ruleset.carriesOwned_relayComments_eq_false _).2 hnone]
  rfl

theorem calls_deactivate (hf : env.Open view forwarder) {srv : RelayServer σ}
    (hok : (srv.recorded.deactivate env.recorded).1 = .ok ()) :
    (srv.recorded.deactivate env.recorded).2.host.calls =
      (if srv.active = none then [] else [.release]) ++
        .list :: (if srv.owned view = [] then [] else [.run Redirect.removal]) := by
  have hview := view_stopForwarder (open_recorded hf).toFaithful srv.recorded
  have hcalls : (srv.recorded.stopForwarder env.recorded).host.calls =
      if srv.active = none then [] else [.release] := by
    unfold stopForwarder recorded
    cases srv.active with
    | none => rfl
    | some options => rfl
  rw [deactivate_eq]
  simp only at hview ⊢
  rw [calls_delete hf ((deactivate_ok_iff _).1 hok), hcalls, hview]
  rfl

theorem isPrefix_program (op : RedirectOp) (r : RecordedHost σ) :
    r.events <+: (Programmer.program env.recorded.nft op r).2.events := by
  cases ha : (Programmer.applied env.recorded.nft r).1 with
  | error e =>
      rw [Programmer.program_of_error ha]
      exact List.prefix_append _ _
  | ok b =>
      rw [Programmer.program_of_ok ha]
      split
      · exact List.prefix_append _ _
      · exact (List.prefix_append _ _).trans (List.prefix_append _ _)

section Started

variable {srv : RelayServer σ} {listen : Ip} {options : RelayOptions}
  {idle : RelayServer (RecordedHost σ)} {gateways : List SocketAddress}
  {resolved bound done : RecordedHost σ}

/-- When the forwarder is bound, no rules of a relay are left. -/
theorem ownedRules_bound (hf : env.Open view forwarder)
    (h : Steps env.recorded listen options srv.recorded idle gateways resolved bound done) :
    (view bound.host).ownedRules = [] := by
  have hfaithful := (open_recorded hf).toFaithful
  have hidle := owned_deactivate_ok hfaithful (congrArg Prod.fst h.stop)
  have hresolve := hfaithful.resolve_view options.gatewayFqdn options.gatewayPort idle.host
  have hbind := hfaithful.bind_view (listenAddress listen options) gateways resolved
  rw [h.stop] at hidle
  rw [h.resolve] at hresolve
  rw [h.bind] at hbind
  rw [hbind, hresolve]
  exact hidle

/-- A start that succeeds with options that are not active asks for this: the forwarder is released,
the rules of a relay are looked for and removed, the gateway is resolved, a forwarder is bound, and
the redirect is added. -/
theorem calls_start (hf : env.Open view forwarder)
    (h : Steps env.recorded listen options srv.recorded idle gateways resolved bound done) :
    done.calls = (if srv.active = none then [] else [.release]) ++
      .list :: (if srv.owned view = [] then [] else [.run Redirect.removal]) ++
      [.resolve options.gatewayFqdn options.gatewayPort,
        .bind (listenAddress listen options) gateways,
        .list, .run (options.redirect gateways).addition] := by
  have hidle := calls_deactivate hf (congrArg Prod.fst h.stop)
  have hdone := calls_add hf (ownedRules_bound hf h) (congrArg Prod.fst h.program)
  have hresolved : idle.host.note (.resolve options.gatewayFqdn options.gatewayPort) _ = resolved :=
    congrArg Prod.snd h.resolve
  have hbound : resolved.note (.bind (listenAddress listen options) gateways) _ = bound :=
    congrArg Prod.snd h.bind
  rw [h.stop] at hidle
  rw [h.program] at hdone
  rw [hdone, ← hbound, RecordedHost.calls_note, ← hresolved, RecordedHost.calls_note, hidle]
  simp

theorem bind_mem_events
    (h : Steps env.recorded listen options srv.recorded idle gateways resolved bound done) :
    ⟨.bind (listenAddress listen options) gateways, bound.host⟩ ∈ done.events := by
  have hprefix : bound.events <+:
      (Programmer.program env.recorded.nft (.add (options.redirect gateways)) bound).2.events :=
    isPrefix_program _ bound
  have hbound : resolved.note (.bind (listenAddress listen options) gateways) _ = bound :=
    congrArg Prod.snd h.bind
  rw [h.program] at hprefix
  refine hprefix.subset ?_
  rw [← hbound]
  exact List.mem_append_right _ (List.mem_singleton_self _)

/-- The forwarder then runs on the relay port, and the redirect is the only rule of a relay. -/
theorem forwarder_done (hf : env.Open view forwarder)
    (h : Steps env.recorded listen options srv.recorded idle gateways resolved bound done) :
    forwarder done.host = some (options.relayPort, gateways) ∧
      (view done.host).ownedRules = [(options.redirect gateways).rule] := by
  have hopen := open_recorded hf
  have hbind := hopen.bind_ok _ _ _ (congrArg Prod.fst h.bind)
  have hforward := forwarder_program hopen (.add (options.redirect gateways)) bound
  have hadd := Programmer.program_ok hopen.nft (congrArg Prod.fst h.program)
  have hnone := ownedRules_bound hf h
  rw [h.bind] at hbind
  rw [h.program] at hforward hadd
  rw [(Ruleset.carriesOwned_relayComments_eq_false _).2 hnone] at hadd
  refine ⟨hforward.trans hbind, ?_⟩
  rw [Ruleset.ownedRules_of_addition hadd, hnone, List.nil_append]

end Started

end Calls

end RelayServer

end WafControl
