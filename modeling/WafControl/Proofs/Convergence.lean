import WafControl.Proofs.Dialogues

/-!
# Streams and proxies come to agree

Whatever a stream and its proxy send each other and whenever snapshots are published: once every
request is handled, every response answered and no publication unseen, the stream has recorded the
names that the proxy wants, and the proxy holds what the current snapshot has under these names,
unless it rejected that.

Each step of a dialogue is a step of the exchange about one type, and leaves the others as they are;
a push is a step of several, one after the other.
-/

namespace WafControl.Discovery

namespace Exchange

variable {published : List Snapshot} {fixed : Option ResourceType} {t t' : ResourceType}
  {i : Interest} {interest : ResourceType → Interest} {up up' : List Request}
  {down : List Response} {subs subs' : Subscriptions} {log : List Sending} {x : Snapshot}

/-- The stream sends a response, perhaps after it has taken up a request. -/
theorem Sound.about_sent (h : (about fixed t i up' down subs' log).Sound published t)
    (suffix : (about fixed t i up down subs log).asks <:+ (about fixed t i up' down subs' log).asks)
    (hrec : Recorded log subs) (asked : i.asked = true) (hx : x ∈ published) (ahead : Bool) :
    (about fixed t i up (down ++ [subs.response t x]) (subs.sent t x)
      (⟨subs.response t x, ahead⟩ :: log)).Sound published t := by
  have hnonempty : (subs.response t x).nonce ≠ "" := by
    simp [Subscriptions.response]
  have hfresh : (subs.response t x).nonce ∉
      (about fixed t i up' down subs' log).history.map Response.nonce := by
    intro hmem
    obtain ⟨r, hr, hnonce⟩ := List.mem_map.1 hmem
    obtain ⟨y, hy, rfl⟩ := List.mem_map.1 (List.mem_reverse.1 hr)
    exact hrec.fresh_nonce (List.mem_map.2 ⟨y, (List.mem_filter.1 hy).1, hnonce⟩)
  rw [Exchange.about_sent]
  exact h.sent asked suffix hx ⟨rfl, rfl⟩ hnonempty hfresh

/-- What holds of the exchanges about all types that share a stream. -/
structure AllSound (published : List Snapshot) (fixed : Option ResourceType)
    (interest : ResourceType → Interest) (up : List Request) (down : List Response)
    (subs : Subscriptions) (log : List Sending) : Prop where
  recorded : Recorded log subs
  listed : ∀ t, (interest t).asked = false → subs.types.find? t = none
  sound : ∀ t, (about fixed t (interest t) up down subs log).Sound published t

/-- The stream sends a response about a type that it was asked for. -/
theorem AllSound.sent (h : AllSound published fixed interest up down subs log)
    (hlisted : subs.types.find? t ≠ none) (hx : x ∈ published) (ahead : Bool) :
    AllSound published fixed interest up (down ++ [subs.response t x]) (subs.sent t x)
      (⟨subs.response t x, ahead⟩ :: log) := by
  have asked : (interest t).asked = true :=
    Decidable.of_not_not fun hne => hlisted (h.listed t (Bool.eq_false_iff.2 hne))
  refine ⟨h.recorded.sent t x ahead, ?_, ?_⟩
  · intro t' ht'
    have hne : t' ≠ t := by
      rintro rfl
      exact Bool.false_ne_true (ht'.symm.trans asked)
    rw [Subscriptions.sent, Table.find?_insert_of_ne _ hne]
    exact h.listed t' ht'
  · intro t'
    by_cases ht : t' = t
    · subst ht
      exact (h.sound t').about_sent (List.suffix_refl _) h.recorded asked hx ahead
    · rw [about_sent_of_ne ht]
      exact h.sound t'

/-- The stream pushes a snapshot: it sends one response after the other. -/
theorem AllSound.handleSnapshot (h : AllSound published fixed interest up down subs log)
    (hx : x ∈ published) (m : Counts) :
    AllSound published fixed interest up (down ++ (subs.handleSnapshot m x).1)
      (subs.handleSnapshot m x).2.1 (logged (subs.handleSnapshot m x).1 false log) := by
  have hsend : ∀ rs s, ∀ t ∈ ResourceType.pushOrder.filter (subs.outdated x.version),
      AllSound published fixed interest up (down ++ rs) s (logged rs false log) ∧
        (∀ t, subs.types.find? t ≠ none → s.types.find? t ≠ none) →
      AllSound published fixed interest up (down ++ (rs ++ [s.response t x])) (s.sent t x)
          (logged (rs ++ [s.response t x]) false log) ∧
        ∀ t', subs.types.find? t' ≠ none → (s.sent t x).types.find? t' ≠ none := by
    rintro rs s t ht ⟨hs, hknown⟩
    have houtdated : subs.types.find? t ≠ none := by
      intro hnone
      simp [Subscriptions.outdated, hnone] at ht
    refine ⟨?_, fun t' ht' => ?_⟩
    · rw [logged_concat, ← List.append_assoc]
      exact hs.sent (hknown t houtdated) hx false
    · exact (s.find?_sent_ne_none_iff t x).2 (Or.inr (hknown t' ht'))
  have hstart : AllSound published fixed interest up (down ++ []) subs (logged [] false log) ∧
      ∀ t, subs.types.find? t ≠ none → subs.types.find? t ≠ none := by
    rw [List.append_nil]
    exact ⟨h, fun _ ht => ht⟩
  exact (Subscriptions.pushAll_induction x _ hsend m hstart).1

/-- A request for one type does nothing about the others. -/
theorem sound_of_typed {r : Request} (ht : Subscriptions.typeOf? fixed r = some t)
    (h : ∀ t, (about fixed t (interest t) (r :: up) down subs log).Sound published t)
    {down' : List Response} {log' : List Sending}
    (hself : (about fixed t (interest t) up down' subs' log').Sound published t)
    (hothers : ∀ t' ≠ t, about fixed t' (interest t') up down' subs' log' =
      about fixed t' (interest t') up down subs log) :
    ∀ t', (about fixed t' (interest t') up down' subs' log').Sound published t' := by
  intro t'
  by_cases hne : t' = t
  · subst hne
    exact hself
  · have hr : Subscriptions.typeOf? fixed r ≠ some t' := by
      rw [ht]
      exact fun heq => hne (Option.some.inj heq).symm
    rw [hothers t' hne, ← about_cons_of_ne hr]
    exact h t'

/-- A request that is not answered at most records its names. -/
theorem sound_record {r : Request} {names : List String}
    (ht : Subscriptions.typeOf? fixed r = some t)
    (h : ∀ t, (about fixed t (interest t) (r :: up) down subs log).Sound published t)
    (hself : Sound published t { about fixed t (interest t) up down subs log with names }) :
    ∀ t', (about fixed t' (interest t') up (down ++ []) (subs.record t names) log).Sound
      published t' := by
  rw [List.append_nil]
  refine sound_of_typed ht h ?_ fun t' hne => about_record_of_ne hne names
  rw [about_record]
  exact hself

/-- The stream takes up the next request. -/
theorem AllSound.handled {r : Request} {response : Option Response}
    (h : AllSound published fixed interest (r :: up) down subs log)
    (hr : subs.Handled fixed r published.head? response subs') (ahead : Bool) :
    ∀ t, (about fixed t (interest t) up (down ++ response.toList) subs'
      (logged response.toList ahead log)).Sound published t := by
  have hstale : ∀ t, (about fixed t (interest t) (r :: up) down subs log).Stale r ↔
      Subscriptions.stale (subs.subscription t) r = true := fun t => stale_about_iff h.recorded r
  cases hr with
  | unknown untyped =>
      intro t
      have hr : Subscriptions.typeOf? fixed r ≠ some t := by simp [untyped]
      have ht := h.sound t
      rw [about_cons_of_ne hr] at ht
      simpa using ht
  | @stale t typed old =>
      exact sound_record typed h.sound
        ((h.sound t).ignored (about_cons typed) ((hstale t).2 old))
  | @rejected t typed fresh rejects =>
      have hfresh : ¬ (about fixed t (interest t) (r :: up) down subs log).Stale r := by
        simp [hstale, fresh]
      refine sound_record typed h.sound
        ((h.sound t).recorded (about_cons typed) hfresh (Or.inl ?_))
      exact Option.isSome_iff_ne_none.1 rejects
  | @unanswered t typed fresh accepts current =>
      have hfresh : ¬ (about fixed t (interest t) (r :: up) down subs log).Stale r := by
        simp [hstale, fresh]
      refine sound_record typed h.sound
        ((h.sound t).recorded (about_cons typed) hfresh (Or.inr ?_))
      cases published with
      | nil => exact Or.inl rfl
      | cons x published =>
          have hack := current x rfl
          simp only [Subscriptions.acknowledges, Bool.and_eq_true, beq_iff_eq] at hack
          exact Or.inr hack.1.2.symm
  | @answered t x typed fresh accepts head behind =>
      have hasks := @about_cons fixed t (interest t) up down subs log r typed
      have asked : (interest t).asked = true :=
        (h.sound t).asked_of_asks (hasks ▸ List.cons_ne_nil r _)
      refine sound_of_typed typed h.sound ?_ fun t' hne => ?_
      · exact (h.sound t).about_sent (hasks ▸ List.suffix_cons r _) (h.recorded.record t r.names)
          asked (List.mem_of_head? head) ahead
      · exact (about_sent_of_ne hne x ahead).trans (about_record_of_ne hne _)

/-- Taking up a request, the stream lists no type that was not asked for. -/
theorem AllSound.listed_of_handled {r : Request} {response : Option Response}
    (h : AllSound published fixed interest (r :: up) down subs log)
    (hr : subs.Handled fixed r published.head? response subs')
    (ht : (interest t).asked = false) : subs'.types.find? t = none := by
  have hne : Subscriptions.typeOf? fixed r ≠ some t := by
    intro typed
    have hasked := (h.sound t).asked_of_asks (by simp [about_cons typed])
    exact Bool.false_ne_true (ht.symm.trans hasked)
  exact (hr.find?_of_ne hne).trans (h.listed t ht)

end Exchange

namespace Dialogue

/-- Whom the stream serves: the proxy, as soon as it has taken up a request. -/
structure Attended (d : Dialogue) : Prop where
  proper : d.node ≠ ""
  live : d.server.session.refusal = none
  watched : ∀ w, d.server.session.stream.watcher = some w → w.node = d.node
  named : d.server.session.stream.watcher = none →
    d.introduced = false ∧ d.up = [] ∨ ∃ r up, d.up = r :: up ∧ r.node = some d.node

/-- What holds of a dialogue at any time. -/
structure Sound (d : Dialogue) : Prop where
  attended : d.Attended
  faithful : d.server.Faithful
  published : d.server.session.cache.get d.node = d.published.head?
  versions : (d.published.map Snapshot.version).Nodup
  permitted : ∀ t, (d.interest t).asked = true → d.fixed = none ∨ d.fixed = some t
  listed : ∀ t, (d.interest t).asked = false → d.subscriptions.types.find? t = none
  opened : ∀ t, (d.interest t).asked = true →
    t ∈ d.server.accepted ∨ ∃ m ∈ (d.exchange t).asks, m.nonce = "" ∧ m.error = none
  exchanges : ∀ t, (d.exchange t).Sound d.published t

theorem sound_start (fixed : Option ResourceType) (cache : Cache) {node : String}
    (hnode : node ≠ "") : (start fixed cache node).Sound where
  attended := ⟨hnode, rfl, nofun, fun _ => Or.inl ⟨rfl, rfl⟩⟩
  faithful := Transcript.faithful_start fixed cache
  published := by
    rw [start, Option.head?_toList]
    rfl
  versions := by
    rw [start]
    cases cache.get node <;> simp
  permitted := fun _ h => by cases h
  listed := fun _ _ => rfl
  opened := fun _ h => by cases h
  exchanges := fun t => Exchange.sound_start _ t

variable {d : Dialogue}

theorem Sound.allSound (h : d.Sound) : Exchange.AllSound d.published d.fixed d.interest d.up d.down
    d.subscriptions d.server.sent :=
  ⟨h.faithful.recorded, h.listed, h.exchanges⟩

theorem Sound.publish (h : d.Sound) (node : String) (x : Snapshot) : (d.publish node x).Sound := by
  rw [Dialogue.publish]
  split
  · split
    · exact h
    · rename_i hn hx
      subst hn
      refine ⟨⟨h.attended.proper, h.attended.live, h.attended.watched, h.attended.named⟩,
        h.faithful.publish _ x, ?_, ?_, h.permitted, h.listed, h.opened, ?_⟩
      · exact Cache.get_set_self _ _ x
      · exact List.nodup_cons.2 ⟨hx, h.versions⟩
      · exact fun t => (h.exchanges t).mono fun y hy => List.mem_cons_of_mem x hy
  · rename_i hn
    refine ⟨⟨h.attended.proper, h.attended.live, h.attended.watched, h.attended.named⟩,
      h.faithful.publish _ x, ?_, h.versions, h.permitted, h.listed, h.opened, h.exchanges⟩
    exact (Cache.get_set_of_ne _ (Ne.symm hn) x).trans h.published

/-- The proxy sends a request that is a step of the exchange about its type. -/
theorem Sound.ask {t : ResourceType} {r : Request} {i : Interest} (h : d.Sound)
    (hf : d.fixed = none ∨ d.fixed = some t) (hr : Subscriptions.typeOf? d.fixed r = some t)
    (hnode : d.introduced = false → r.node = some d.node) (hi : i.asked = true)
    (hopened : (d.interest t).asked = true ∨ r.nonce = "" ∧ r.error = none)
    (hstep : Exchange.Sound d.published t
      { d.exchange t with asks := (d.exchange t).asks ++ [r], interest := i }) :
    (d.ask t r i).Sound := by
  have hself : (d.ask t r i).interest t = i := by simp [Dialogue.ask]
  have hother : ∀ t' ≠ t, (d.ask t r i).interest t' = d.interest t' := by
    intro t' hne
    simp [Dialogue.ask, hne]
  refine ⟨⟨h.attended.proper, h.attended.live, h.attended.watched, ?_⟩, h.faithful, h.published,
    h.versions, ?_, ?_, ?_, ?_⟩
  · intro hw
    rcases h.attended.named hw with ⟨hintro, hup⟩ | ⟨m, up, hup, hm⟩
    · exact Or.inr ⟨r, [], by rw [Dialogue.ask, hup]; rfl, hnode hintro⟩
    · exact Or.inr ⟨m, up ++ [r], by rw [Dialogue.ask, hup]; rfl, hm⟩
  · intro t' ht'
    by_cases hne : t' = t
    · subst hne
      exact hf
    · rw [hother t' hne] at ht'
      exact h.permitted t' ht'
  · intro t' ht'
    by_cases hne : t' = t
    · subst hne
      rw [hself, hi] at ht'
      cases ht'
    · rw [hother t' hne] at ht'
      exact h.listed t' ht'
  · intro t' ht'
    by_cases hne : t' = t
    · subst hne
      rw [exchange_ask hr]
      rcases hopened with hasked | ⟨hnonce, herror⟩
      · rcases h.opened t' hasked with hacc | ⟨m, hm, hopen⟩
        · exact Or.inl hacc
        · exact Or.inr ⟨m, List.mem_append_left _ hm, hopen⟩
      · exact Or.inr ⟨r, List.mem_append_right _ (List.mem_singleton.2 rfl), hnonce, herror⟩
    · rw [exchange_ask_of_ne hr hne]
      rw [hother t' hne] at ht'
      exact h.opened t' ht'
  · intro t'
    by_cases hne : t' = t
    · subst hne
      rw [exchange_ask hr]
      exact hstep
    · rw [exchange_ask_of_ne hr hne]
      exact h.exchanges t'

theorem request_node (t : ResourceType) (hd : Header) (names : List String) (nonce : String)
    (error : Option (Int × String)) (hi : d.introduced = false) :
    (d.request t hd names nonce error).node = some d.node := by
  simp [Dialogue.request, hi]

theorem Sound.want (h : d.Sound) (t : ResourceType) (names : List String) (hd : Header) :
    (d.want t names hd).Sound := by
  unfold Dialogue.want
  dsimp only
  split
  · rename_i hf
    split
    · exact h
    · rename_i hchanges
      refine h.ask hf (d.typeOf?_request hf hd _ _ _) (request_node t hd _ _ _) rfl ?_ ?_
      · cases ha : (d.interest t).asked with
        | true => exact Or.inl rfl
        | false => exact Or.inr ⟨rfl, rfl⟩
      · exact (h.exchanges t).want (fun ha heq => hchanges ⟨ha, heq⟩) rfl rfl rfl
  · exact h

theorem Sound.answer (h : d.Sound) (t : ResourceType) (error : Option (Int × String))
    (hd : Header) : (d.answer t error hd).Sound := by
  unfold Dialogue.answer
  dsimp only
  split
  · exact h
  · rename_i r rest howed
    have hpending : (d.exchange t).pending ≠ [] := by
      simp [Exchange.pending, exchange, Exchange.about, howed]
    have hasked := (h.exchanges t).asked_of_pending hpending
    have hf := h.permitted t hasked
    refine h.ask hf (d.typeOf?_request hf hd _ _ _) (request_node t hd _ _ _) hasked
      (Or.inl hasked) ?_
    exact (h.exchanges t).answer howed rfl rfl

theorem Sound.receive (h : d.Sound) : d.receive.Sound := by
  unfold Dialogue.receive
  split
  · exact h
  · rename_i r down hdown
    have hasked : ∀ t, (Function.update d.interest r.type ((d.interest r.type).receive r) t).asked =
        (d.interest t).asked := by
      intro t
      by_cases ht : t = r.type
      · subst ht
        simp [Interest.receive]
      · rw [Function.update_of_ne ht]
    refine ⟨⟨h.attended.proper, h.attended.live, h.attended.watched, h.attended.named⟩, h.faithful,
      h.published, h.versions, fun t ht => h.permitted t (hasked t ▸ ht),
      fun t ht => h.listed t (hasked t ▸ ht), fun t ht => h.opened t (hasked t ▸ ht), ?_⟩
    intro t
    have he := h.exchanges t
    rw [exchange, hdown] at he
    change (Exchange.about d.fixed t (Function.update d.interest r.type
      ((d.interest r.type).receive r) t) d.up down d.subscriptions d.server.sent).Sound _ _
    by_cases ht : t = r.type
    · subst ht
      rw [Function.update_self]
      exact he.receive (by simp [Exchange.about])
    · rw [Function.update_of_ne ht]
      simpa [Exchange.about, Ne.symm ht] using he

theorem Attended.nodeId {r : Request} {up : List Request} (h : d.Attended) (hup : d.up = r :: up)
    (hw : d.server.session.stream.watcher = none) : r.nodeId = .ok d.node := by
  rcases h.named hw with ⟨-, hnil⟩ | ⟨m, up', hup', hm⟩
  · rw [hup] at hnil
    cases hnil
  · rw [hup] at hup'
    cases hup'
    simp [Request.nodeId, hm, h.proper]

/-- What taking up the next request comes to. -/
theorem Sound.exists_handle {r : Request} {up : List Request} (h : d.Sound)
    (hup : d.up = r :: up) :
    ∃ s' response subs m, d.server.session.attend? r = some s' ∧ s'.Watches d.node ∧
      s'.stream.fixed = d.fixed ∧ s'.cache.get d.node = d.published.head? ∧
      d.subscriptions.Handled d.fixed r d.published.head? response subs ∧
      d.handle = { d with
        server := { d.server.note response.toList (s'.update subs m) with
          accepted := (d.server.session.accepts? r).toList ++ d.server.accepted }
        up
        down := d.down ++ response.toList } := by
  obtain ⟨s', ha, hwatches⟩ := d.server.session.exists_attend? h.attended.live h.attended.watched
    (h.attended.nodeId hup)
  obtain ⟨hfixed, hsubs, hcache⟩ := Session.stream_of_attend? ha
  have hget : s'.cache.get d.node = d.published.head? := (hcache d.node).trans h.published
  obtain ⟨response, s'', hs, hr⟩ := d.server.session.requested_request r
  cases hr with
  | refused status unattended =>
      rw [ha] at unattended
      cases unattended
  | handled m attends handles =>
      cases ha.symm.trans attends
      rw [hsubs, hfixed, hwatches.current, hget] at handles
      refine ⟨s', response, _, m, ha, hwatches, hfixed, hget, handles, ?_⟩
      simp [Dialogue.handle, hup, Transcript.request, hs]

/-- The opening request of a type is accepted when it is taken up. -/
theorem Sound.opened_handle {r : Request} {up : List Request} {s' : Session} {t : ResourceType}
    (h : d.Sound) (hup : d.up = r :: up) (ha : d.server.session.attend? r = some s')
    (hfixed : s'.stream.fixed = d.fixed) (ht : (d.interest t).asked = true) :
    t ∈ (d.server.session.accepts? r).toList ++ d.server.accepted ∨
      ∃ m ∈ up.filter fun m => decide (Subscriptions.typeOf? d.fixed m = some t),
        m.nonce = "" ∧ m.error = none := by
  rcases h.opened t ht with hacc | ⟨m, hm, hnonce, herror⟩
  · exact Or.inl (List.mem_append_right _ hacc)
  · obtain ⟨hmem, htyped⟩ := List.mem_filter.1 hm
    rw [hup] at hmem
    rcases List.mem_cons.1 hmem with rfl | hmem
    · have htype : Subscriptions.typeOf? s'.stream.fixed m = some t :=
        hfixed ▸ of_decide_eq_true htyped
      rw [Session.accepts?_of_opening ha htype hnonce herror]
      exact Or.inl (List.mem_append_left _ (List.mem_singleton.2 rfl))
    · exact Or.inr ⟨m, List.mem_filter.2 ⟨hmem, htyped⟩, hnonce, herror⟩

theorem Sound.handle (h : d.Sound) : d.handle.Sound := by
  cases hup : d.up with
  | nil =>
      unfold Dialogue.handle
      rw [hup]
      exact h
  | cons r up =>
      have hfaithful : d.handle.server.Faithful := by
        unfold Dialogue.handle
        rw [hup]
        exact h.faithful.request r
      obtain ⟨s', response, subs, m, ha, ⟨hlive, w, hw, hnode⟩, hfixed, hget, handles, hd⟩ :=
        h.exists_handle hup
      have hall : Exchange.AllSound d.published d.fixed d.interest (r :: up) d.down d.subscriptions
          d.server.sent := hup ▸ h.allSound
      rw [hd] at hfaithful ⊢
      refine ⟨⟨h.attended.proper, hlive, ?_, ?_⟩, hfaithful, hget, h.versions, ?_, ?_, ?_, ?_⟩
      · intro w' hw'
        cases hw.symm.trans hw'
        exact hnode
      · intro hnone
        cases hw.symm.trans hnone
      · intro t ht
        have hpermitted := h.permitted t ht
        rw [← hfixed] at hpermitted
        exact hpermitted
      · exact fun t ht => hall.listed_of_handled handles ht
      · intro t ht
        have hopened := h.opened_handle hup ha hfixed ht
        rw [← hfixed] at hopened
        exact hopened
      · intro t
        have hsound := hall.handled handles (s'.update subs m).unseen t
        rw [← hfixed] at hsound
        exact hsound

theorem Attended.see {server : Transcript} {down : List Response} (h : d.Attended)
    (hr : server.session.refusal = d.server.session.refusal)
    (hw : server.session.stream.watcher = d.server.session.see.stream.watcher) :
    Attended { d with server, down } := by
  refine ⟨h.proper, hr.trans h.live, ?_, ?_⟩
  · intro w hs
    obtain ⟨w', hw', rfl⟩ := Option.map_eq_some_iff.1 (hw.symm.trans hs)
    exact h.watched w' hw'
  · intro hs
    exact h.named (Option.map_eq_none_iff.1 (hw.symm.trans hs))

theorem Sound.head?_of_current {x : Snapshot} (h : d.Sound)
    (hx : d.server.session.current = some x) : d.published.head? = some x := by
  rw [← h.published, ← hx, Session.current]
  cases hw : d.server.session.stream.watcher with
  | none => simp [Session.current, hw] at hx
  | some w => rw [← h.attended.watched w hw]; rfl

theorem Sound.push (h : d.Sound) : d.push.Sound := by
  have hfaithful := h.faithful.push
  unfold Dialogue.push
  obtain ⟨rs, s', hs, hp⟩ := d.server.session.pushed_push
  rw [Transcript.push, hs] at hfaithful ⊢
  cases hp with
  | idle still =>
      simpa [Transcript.note] using h
  | nothing unpublished =>
      refine ⟨h.attended.see rfl rfl, hfaithful, h.published, h.versions, h.permitted, h.listed,
        h.opened, ?_⟩
      intro t
      change (Exchange.about d.fixed t (d.interest t) d.up (d.down ++ []) d.subscriptions
        d.server.sent).Sound _ _
      rw [List.append_nil]
      exact h.exchanges t
  | @pushed x m published =>
      have hx := List.mem_of_head? (h.head?_of_current published)
      have hall := h.allSound.handleSnapshot hx d.server.session.counts
      refine ⟨h.attended.see rfl rfl, hfaithful, h.published, h.versions, h.permitted, hall.listed,
        h.opened, ?_⟩
      intro t
      change (Exchange.about d.fixed t (d.interest t) d.up _ _
        (d.server.note _ (d.server.session.see.update _ m)).sent).Sound _ _
      rw [Transcript.sent_note_see]
      exact hall.sound t

theorem Sound.step (h : d.Sound) (e : Step) : (d.step e).Sound := by
  cases e with
  | publish node x => exact h.publish node x
  | handle => exact h.handle
  | push => exact h.push
  | receive => exact h.receive
  | want t names hd => exact h.want t names hd
  | answer t error hd => exact h.answer t error hd

theorem Sound.run (h : d.Sound) (steps : List Step) : (d.run steps).Sound := by
  induction steps generalizing d with
  | nil => exact h
  | cons e steps ih => exact ih (h.step e)

/-- Nothing is on its way, and the stream has seen every publication. -/
structure Quiet (d : Dialogue) : Prop where
  up : d.up = []
  down : d.down = []
  seen : d.server.session.unseen = false

theorem node_step (d : Dialogue) (e : Step) : (d.step e).node = d.node := by
  cases e with
  | publish node x =>
      rw [step, Dialogue.publish]
      split
      · split <;> rfl
      · rfl
  | handle =>
      rw [step, Dialogue.handle]
      split <;> rfl
  | push => rfl
  | receive =>
      rw [step, Dialogue.receive]
      split <;> rfl
  | want t names hd =>
      unfold step Dialogue.want
      dsimp only
      split
      · split <;> rfl
      · rfl
  | answer t error hd =>
      unfold step Dialogue.answer
      dsimp only
      split <;> rfl

theorem node_run (d : Dialogue) (steps : List Step) : (d.run steps).node = d.node := by
  induction steps generalizing d with
  | nil => rfl
  | cons e steps ih => exact (ih (d.step e)).trans (d.node_step e)

theorem Sound.watches {t : ResourceType} (h : d.Sound) (hacc : t ∈ d.server.accepted) :
    d.server.session.Watches d.node := by
  cases hw : d.server.session.stream.watcher with
  | none =>
      rw [(h.faithful.fresh hw).2] at hacc
      cases hacc
  | some w => exact ⟨h.attended.live, w, hw, h.attended.watched w hw⟩

theorem Quiet.pending {t : ResourceType} (h : d.Quiet) (howed : (d.interest t).owed = []) :
    (d.exchange t).pending = [] := by
  simp [Exchange.pending, exchange, Exchange.about, howed, h.down]

theorem Quiet.asks (h : d.Quiet) (t : ResourceType) : (d.exchange t).asks = [] := by
  simp [exchange, Exchange.about, h.up]

/-- What the proxy received last of a type is the current version, if it asked for the type. -/
theorem Sound.received_of_quiet {t : ResourceType} {x : Snapshot} (h : d.Sound) (hq : d.Quiet)
    (hx : d.published.head? = some x) (hasked : (d.interest t).asked = true)
    (howed : (d.interest t).owed = []) :
    ∃ r, (d.exchange t).history.getLast? = some r ∧ (d.interest t).received = some r ∧
      r.version = x.version := by
  have hacc : t ∈ d.server.accepted := by
    rcases h.opened t hasked with hacc | ⟨m, hm, -⟩
    · exact hacc
    · rw [hq.asks t] at hm
      cases hm
  have hcurrent : d.server.session.current = some x := by
    rw [(h.watches hacc).current, h.published, hx]
  have hversion := h.faithful.caughtUp hq.seen x hcurrent t (Or.inl hacc)
  rw [(h.faithful.recorded.last t).2] at hversion
  obtain ⟨r, hlast, hr⟩ := Option.map_eq_some_iff.1 hversion
  have hhistory : (d.exchange t).history.getLast? = some r := by
    rw [exchange, Exchange.about, List.getLast?_reverse, List.head?_map, List.head?_filter]
    exact hlast
  exact ⟨r, hhistory, ((h.exchanges t).received_eq (hq.pending howed)).trans hhistory, hr⟩

/-- However a proxy and its stream go on, and whenever snapshots are published: in a quiet dialogue
whose node has a snapshot, and for each type that the proxy asked for and whose responses it has
answered, the stream has recorded the names that the proxy wants, and the proxy received last what
the current snapshot has under these names, unless its last request for the type was a rejection. -/
theorem quiet_agrees (fixed : Option ResourceType) (cache : Cache) {node : String}
    (hnode : node ≠ "") (steps : List Step) {d : Dialogue}
    (hd : d = (start fixed cache node).run steps) (hquiet : d.Quiet) {x : Snapshot}
    (hx : d.server.session.cache.get node = some x) (t : ResourceType)
    (hasked : (d.interest t).asked = true) (howed : (d.interest t).owed = []) :
    (d.subscriptions.subscription t).names = (d.interest t).names ∧
      ((d.interest t).rejected = false → ∃ r, (d.interest t).received = some r ∧
        r.version = x.version ∧ r.resources = served x.resources t (d.interest t).names) := by
  have hsound : d.Sound := hd ▸ (sound_start fixed cache hnode).run steps
  have hnode' : d.node = node := hd ▸ (start fixed cache node).node_run steps
  have hhead : d.published.head? = some x := by
    rw [← hsound.published, hnode']
    exact hx
  have hnames := (hsound.exchanges t).settled hasked (hquiet.asks t) (hquiet.pending howed)
  refine ⟨hnames, fun hrejected => ?_⟩
  obtain ⟨r, hlast, hreceived, hversion⟩ := hsound.received_of_quiet hquiet hhead hasked howed
  obtain ⟨x', hx', hversion', hserves | hrefused⟩ := (hsound.exchanges t).serves r hlast
  · have hsame : x' = x := List.inj_on_of_nodup_map hsound.versions hx' (List.mem_of_head? hhead)
      (hversion'.symm.trans hversion)
    subst hsame
    exact ⟨r, hreceived, hversion, hserves.trans (congrArg _ hnames)⟩
  · -- the last request was a rejection
    have hrej : (d.interest t).rejected = true := hrefused.rejected (hquiet.asks t)
    rw [hrejected] at hrej
    cases hrej

/-- The proxy wants other clusters before it answers the first response, so that its answer is
overtaken by a second response. -/
def overtaken : List Step :=
  [.want .cluster [] {}, .handle,
    .publish "node-1" (Transcript.routedSnapshot "v1" ["shop", "cart"]), .push, .receive,
    .want .cluster ["cart"] {}, .answer .cluster none {}, .handle, .handle, .receive,
    .answer .cluster none {}, .handle]

/-- The proxy is left with the second response, which has the one cluster that it wants. -/
theorem overtaken_agrees :
    let d := (start none {} "node-1").run overtaken
    let x := Transcript.routedSnapshot "v1" ["shop", "cart"]
    let r : Response := ⟨"v1", .cluster, "2", [.cluster { name := "cart" }]⟩
    (d.subscriptions.subscription .cluster).names = (d.interest .cluster).names ∧
      (d.interest .cluster).received = some r ∧ r.version = x.version ∧
      r.resources = served x.resources .cluster (d.interest .cluster).names := by
  intro d x r
  have hquiet : d.Quiet := ⟨by decide +kernel, by decide +kernel, by decide +kernel⟩
  have hreceived : (d.interest .cluster).received = some r := by decide +kernel
  obtain ⟨hnames, hagrees⟩ := quiet_agrees none {} (by decide +kernel) overtaken rfl hquiet
    (x := x) (by decide +kernel) .cluster (by decide +kernel) (by decide +kernel)
  obtain ⟨r', hr', hversion, hserved⟩ := hagrees (by decide +kernel)
  cases hreceived.symm.trans hr'
  exact ⟨hnames, hreceived, hversion, hserved⟩

end Dialogue

end WafControl.Discovery
