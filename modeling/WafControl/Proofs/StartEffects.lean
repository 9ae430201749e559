import WafControl.Proofs.HostRecords

/-!
# What a request to start changes

A request to start is refused, or it asks for the options that are active already, or it replaces
what was in force before. In the first two cases the relay server asks nothing of its namespace, and
nothing changes; in the third, a request that succeeds has removed every rule of a relay before the
new forwarder was bound (`startRelay_exact`). Whether a request is refused depends on its values in
32 bits alone, so that no port is taken for another one.
-/

namespace WafControl

namespace RelayOptions

/-- There are no options, the gateway has no name, or a value is no port. -/
def Refused (request : Option StartRequest) : Prop :=
  ∀ r, request = some r → r.proxyFqdn = "" ∨
    ∃ value ∈ [r.proxyListeningPort, r.appContainerPort, r.relayPort],
      value = 0 ∨ 65535 < value.toNat

theorem of_check_eq_ok {which : StartPort} {value : UInt32} {p : UInt16}
    (h : which.check value = .ok p) : p.toUInt32 = value ∧ ¬ (value = 0 ∨ 65535 < value.toNat) := by
  unfold StartPort.check at h
  split at h
  · rename_i hport
    cases h
    refine ⟨UInt32.toNat_inj.1 ?_, ?_⟩
    · rw [UInt16.toNat_toUInt32, UInt32.toNat_toUInt16]
      exact Nat.mod_eq_of_lt hport.2
    · rintro (rfl | hlarge)
      · exact absurd hport.1 (Nat.lt_irrefl 0)
      · omega
  · cases h

/-- A request that is accepted carries the options as they are. -/
theorem of_ofRequest_eq_ok {request : Option StartRequest} {o : RelayOptions}
    (h : ofRequest request = .ok o) : request = some o.toRequest ∧ ¬ Refused request := by
  cases request with
  | none => cases h
  | some r =>
      rw [ofRequest] at h
      split at h
      · cases h
      · rename_i hname
        cases hg : StartPort.gateway.check r.proxyListeningPort with
        | error e =>
            rw [hg] at h
            cases h
        | ok gatewayPort =>
            cases ha : StartPort.app.check r.appContainerPort with
            | error e =>
                rw [hg, ha] at h
                cases h
            | ok appPort =>
                cases hr : StartPort.relay.check r.relayPort with
                | error e =>
                    rw [hg, ha, hr] at h
                    cases h
                | ok relayPort =>
                    rw [hg, ha, hr] at h
                    cases h
                    obtain ⟨hgateway, hg⟩ := of_check_eq_ok hg
                    obtain ⟨happ, ha⟩ := of_check_eq_ok ha
                    obtain ⟨hrelay, hr⟩ := of_check_eq_ok hr
                    refine ⟨?_, fun hrefused => ?_⟩
                    · rw [toRequest, hgateway, happ, hrelay]
                    · simp only [Refused, List.mem_cons, List.not_mem_nil, or_false,
                        exists_eq_or_imp, exists_eq_left] at hrefused
                      simpa [hname, hg, ha, hr] using hrefused r rfl

theorem exists_ofRequest_eq_error {request : Option StartRequest} (h : Refused request) :
    ∃ fault, ofRequest request = .error fault := by
  cases hr : ofRequest request with
  | error fault => exact ⟨fault, rfl⟩
  | ok o => exact absurd h (of_ofRequest_eq_ok hr).2

/-- A request that is not refused is accepted. -/
theorem exists_ofRequest_eq_ok {request : Option StartRequest} (h : ¬ Refused request) :
    ∃ o, ofRequest request = .ok o := by
  cases request with
  | none => exact absurd nofun h
  | some r =>
      simp only [Refused, List.mem_cons, List.not_mem_nil, or_false, exists_eq_or_imp,
        exists_eq_left, Option.some.injEq, forall_eq', not_or] at h
      obtain ⟨hname, ⟨hg₀, hg⟩, ⟨ha₀, ha⟩, hr₀, hr⟩ := h
      have hcheck (which : StartPort) {value : UInt32} (h₀ : value ≠ 0)
          (h : ¬ 65535 < value.toNat) : which.check value = .ok value.toUInt16 := by
        have hpos : value.toNat ≠ 0 := fun h => h₀ (UInt32.toNat_inj.1 h)
        exact if_pos ⟨Nat.pos_of_ne_zero hpos, by omega⟩
      refine ⟨⟨r.proxyFqdn, r.proxyListeningPort.toUInt16, r.appContainerPort.toUInt16,
        r.relayPort.toUInt16⟩, ?_⟩
      rw [ofRequest, if_neg hname, hcheck _ hg₀ hg, hcheck _ ha₀ ha, hcheck _ hr₀ hr]
      rfl

end RelayOptions

namespace RelayServer

variable {σ : Type} {env : RelayHost σ} {view : σ → Ruleset}
  {forwarder : σ → Option (UInt16 × List SocketAddress)}

/-- What is asked of the namespace in the course of a request to start. -/
def startRecord (env : RelayHost σ) (listen : Ip) (request : Option StartRequest)
    (srv : RelayServer σ) : RecordedHost σ :=
  (srv.recorded.startRelay env.recorded listen request).2.host

theorem code_activate {listen : Ip} {options : RelayOptions} {gateways : List SocketAddress}
    {srv : RelayServer σ} {status : Status}
    (h : (activate env listen options gateways srv).1 = .error status) :
    status.code = .internal := by
  unfold activate at h
  simp only at h
  split at h
  · cases h
    rfl
  · split at h
    · cases h
      rfl
    · cases h

/-- A start with checked options fails for other reasons than its options. -/
theorem code_start {listen : Ip} {options : RelayOptions} {srv : RelayServer σ} {status : Status}
    (h : (srv.start env listen options).1 = .error status) :
    status.code = .internal ∨ status.code = .unavailable := by
  unfold start at h
  split at h
  · cases h
  · split at h
    · rename_i hd
      cases h
      unfold deactivate at hd
      simp only at hd
      split at hd
      · cases hd
        exact Or.inl rfl
      · cases hd
    · split at h
      · cases h
        exact Or.inr rfl
      · cases h
        exact Or.inr rfl
      · exact Or.inl (code_activate h)

/-- What was in force has been replaced: all that was asked of the namespace is to release the
forwarder, to remove the rules of a relay, of which none was left when the new forwarder was bound,
to resolve the gateway, to bind and to program. The new forwarder runs on the requested port, and
the redirect to it is the only rule of a relay. -/
structure Replaced (env : RelayHost σ) (view : σ → Ruleset)
    (forwarder : σ → Option (UInt16 × List SocketAddress)) (listen : Ip) (options : RelayOptions)
    (gateways : List SocketAddress) (before after : RelayServer σ) (record : RecordedHost σ) :
    Prop where
  calls : record.calls = (if before.active = none then [] else [.release]) ++
    .list :: (if before.owned view = [] then [] else [.run Redirect.removal]) ++
    [.resolve options.gatewayFqdn options.gatewayPort,
      .bind (listenAddress listen options) gateways,
      .list, .run (options.redirect gateways).addition]
  cleared : ∃ host, ⟨.bind (listenAddress listen options) gateways, host⟩ ∈ record.events ∧
    (view host).ownedRules = []
  active : after.active = some options
  serving : after.serving = true
  forwarder : forwarder after.host = some (options.relayPort, gateways)
  rules : after.owned view =
    [⟨.redirect options.appPort options.relayPort, some Redirect.ownedComment⟩]

theorem startRelay_of_ok {request : Option StartRequest} {options : RelayOptions}
    (h : RelayOptions.ofRequest request = .ok options) (listen : Ip) (srv : RelayServer σ) :
    srv.startRelay env listen request = srv.start env listen options := by
  rw [startRelay, h]

theorem startRelay_of_error {request : Option StartRequest} {fault : StartFault}
    (h : RelayOptions.ofRequest request = .error fault) (listen : Ip) (srv : RelayServer σ) :
    srv.startRelay env listen request = (.error fault.status, srv) := by
  rw [startRelay, h]

theorem exists_replaced (hf : env.Open view forwarder) {listen : Ip}
    {request : Option StartRequest} {options : RelayOptions} {srv : RelayServer σ}
    (hr : RelayOptions.ofRequest request = .ok options) (hne : srv.active ≠ some options)
    (h : (srv.startRelay env listen request).1 = .ok ()) :
    ∃ gateways, gateways ≠ [] ∧ Replaced env view forwarder listen options gateways srv
      (srv.startRelay env listen request).2 (startRecord env listen request srv) := by
  have hrecorded := startRelay_recorded env listen request srv
  rw [startRelay_of_ok hr] at hrecorded
  have hok : (srv.recorded.start env.recorded listen options).1 = .ok () := by
    rw [← h, ← hrecorded]
    rfl
  have hne : srv.recorded.active ≠ some options := hne
  obtain ⟨idle, gateways, resolved, bound, done, hsteps⟩ := start_ok_steps hne hok
  obtain ⟨hforward, hrules⟩ := forwarder_done hf hsteps
  have hafter : (srv.startRelay env listen request).2 = ⟨some options, true, done.host⟩ := by
    rw [← hrecorded, hsteps.result]
    rfl
  have hrecord : startRecord env listen request srv = done := by
    rw [startRecord, startRelay_of_ok hr, hsteps.result]
  rw [hafter, hrecord]
  exact ⟨gateways, hsteps.nonempty,
    { calls := calls_start hf hsteps
      cleared := ⟨bound.host, bind_mem_events hsteps, ownedRules_bound hf hsteps⟩
      active := rfl
      serving := rfl
      forwarder := hforward
      rules := hrules }⟩

/-- A request to start is refused as an invalid argument exactly if it has no options, names no
gateway or has a value that is no port. A request that is refused and one for the options that are
active change nothing and ask nothing of the namespace. Any other request that succeeds has replaced
what was in force before. -/
theorem startRelay_exact (hf : env.Open view forwarder) (listen : Ip)
    (request : Option StartRequest) (srv : RelayServer σ) :
    let result := srv.startRelay env listen request
    let record := startRecord env listen request srv
    ((∃ why, result.1 = .error ⟨.invalidArgument, why⟩) ↔ RelayOptions.Refused request) ∧
      (RelayOptions.Refused request → result.2 = srv ∧ record.calls = []) ∧
      (¬ RelayOptions.Refused request → srv.active.map RelayOptions.toRequest = request →
        result = (.ok (), srv) ∧ record.calls = []) ∧
      (¬ RelayOptions.Refused request → srv.active.map RelayOptions.toRequest ≠ request →
        result.1 = .ok () → ∃ options gateways, request = some options.toRequest ∧
          gateways ≠ [] ∧
          Replaced env view forwarder listen options gateways srv result.2 record) := by
  intro result record
  by_cases hrefused : RelayOptions.Refused request
  · obtain ⟨fault, hfault⟩ := RelayOptions.exists_ofRequest_eq_error hrefused
    have hresult : result = (.error fault.status, srv) := startRelay_of_error hfault listen srv
    have hrecord : record = ⟨srv.host, []⟩ := by
      simp only [record, startRecord, startRelay_of_error hfault]
      rfl
    rw [hresult, hrecord]
    exact ⟨⟨fun _ => hrefused, fun _ => ⟨fault.message, rfl⟩⟩, fun _ => ⟨rfl, rfl⟩,
      fun h => absurd hrefused h, fun h => absurd hrefused h⟩
  · obtain ⟨options, hoptions⟩ := RelayOptions.exists_ofRequest_eq_ok hrefused
    obtain ⟨hrequest, -⟩ := RelayOptions.of_ofRequest_eq_ok hoptions
    have hresult : result = srv.start env listen options := startRelay_of_ok hoptions listen srv
    refine ⟨⟨fun ⟨why, hwhy⟩ => ?_, fun h => absurd h hrefused⟩, fun h => absurd h hrefused,
      fun _ hsame => ?_, fun _ hother hok => ?_⟩
    · rw [hresult] at hwhy
      rcases code_start hwhy with hcode | hcode
      · cases hcode
      · cases hcode
    · have hactive : srv.active = some options := by
        rw [hrequest] at hsame hoptions
        obtain ⟨o, ho, hsame⟩ := Option.map_eq_some_iff.1 hsame
        rw [← hsame] at hoptions
        rw [ho, RelayOptions.eq_of_ofRequest_toRequest hoptions]
      have hrecord : record = ⟨srv.host, []⟩ := by
        simp only [record, startRecord, startRelay_of_ok hoptions]
        rw [start, if_pos (by exact hactive)]
        rfl
      rw [hrecord]
      exact ⟨hresult.trans (if_pos hactive), rfl⟩
    · have hne : srv.active ≠ some options := fun hactive => hother (by rw [hactive, hrequest]; rfl)
      obtain ⟨gateways, hnonempty, hreplaced⟩ := exists_replaced hf hoptions hne hok
      exact ⟨options, gateways, hrequest, hnonempty, hreplaced⟩

/-- A relay forwards for port 8080 where an earlier one had left its redirect. A request whose port
does not fit 16 bits and has 8080 as its lowest bits is refused. The same request with port 8081
releases the forwarder, removes its rule and starts anew. -/
theorem loopback_start_exact :
    let request : StartRequest := ⟨"127.0.0.1", 31000, 8080, 50010⟩
    let listen : Ip := .v4 ⟨0, 0, 0, 0⟩
    let srv := ((⟨none, false, leftLoopback⟩ : RelayServer Loopback).startRelay Loopback.host
      listen (some request)).2
    let truncated := some { request with appContainerPort := 8080 + 65536 }
    let changed := some { request with appContainerPort := 8081 }
    srv.active = some ⟨"127.0.0.1", 31000, 8080, 50010⟩ ∧
      (∃ why, (srv.startRelay Loopback.host listen truncated).1 =
        .error ⟨.invalidArgument, why⟩) ∧
      (srv.startRelay Loopback.host listen truncated).2 = srv ∧
      (srv.startRelay Loopback.host listen changed).1 = .ok () ∧
      ∃ options gateways, changed = some options.toRequest ∧ gateways ≠ [] ∧
        Replaced Loopback.host (fun l => l.nft.ruleset) Loopback.forwarder listen options gateways
          srv (srv.startRelay Loopback.host listen changed).2
          (startRecord Loopback.host listen changed srv) := by
  intro request listen srv truncated changed
  have hactive : srv.active = some ⟨"127.0.0.1", 31000, 8080, 50010⟩ := by decide
  have hok : (srv.startRelay Loopback.host listen changed).1 = .ok () := by decide
  obtain ⟨hiff, hunchanged, -, -⟩ :=
    startRelay_exact Loopback.open_host listen truncated srv
  obtain ⟨-, -, -, hreplaced⟩ := startRelay_exact Loopback.open_host listen changed srv
  have htruncated : RelayOptions.Refused truncated := by
    intro r hr
    rw [← Option.some.inj hr]
    exact Or.inr ⟨8080 + 65536, by decide, Or.inr (by decide)⟩
  have hchanged : ¬ RelayOptions.Refused changed := fun h => absurd (h _ rfl) (by decide)
  refine ⟨hactive, hiff.2 htruncated, (hunchanged htruncated).1, hok, hreplaced hchanged ?_ hok⟩
  rw [hactive]
  decide

end RelayServer

end WafControl
