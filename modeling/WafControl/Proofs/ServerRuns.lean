import WafControl.Proofs.StreamReads

/-!
# Runs of a discovery server

Between two things that happen to a server, its streams need not have caught up: publications,
openings, requests, pushes and ends come in any order, and each stream pushes on its own
(`Server.Step`). What the server does in one go, such as setting snapshots or shutting down, is a
run of such steps (`set_eq_run`, `sendAll_eq_run`, `drain_eq_run`).

A step on one stream leaves the others as they are, and what is published (`On`).
-/

namespace WafControl.Discovery

namespace Server

inductive Step where
  | publish (node : String) (x : Snapshot)
  | openStream (id : String) (fixed : Option ResourceType)
  | request (id : String) (r : Request)
  /-- A stream takes up what it has not seen. -/
  | push (id : String)
  /-- The client ends its requests, or the stream notices that the server is shutting down. -/
  | close (id : String)
  | reset (id : String)
  | fetch (t : ResourceType) (r : Request)
  | shutDown
  | advance (ms : Nat)
  deriving DecidableEq, Repr

/-- The stream that a step is on. -/
def Step.on? : Step → Option String
  | .openStream id _ | .request id _ | .push id | .close id | .reset id => some id
  | .publish _ _ | .fetch _ _ | .shutDown | .advance _ => none

/-- The request that a step hands to a stream. -/
def Step.request? (id : String) : Step → Option Request
  | .request other r => if other = id then some r else none
  | _ => none

/-- Events on a stream, with its id. -/
def tagged (id : String) (result : List Event × Server) : List (String × Event) × Server :=
  (result.1.map fun e => (id, e), result.2)

def step (s : Server) : Step → List (String × Event) × Server
  | .publish node x => ([], { s with cache := s.cache.set node x })
  | .openStream id fixed => tagged id (s.openStream id fixed)
  | .request id r => tagged id (s.sendAll id [r])
  | .push id => tagged id (s.pushOn id)
  | .close id => tagged id (s.endStream id)
  | .reset id => ([], s.reset id)
  | .fetch t r => ([], (s.fetch t r).2)
  | .shutDown => ([], { s with draining := true })
  | .advance ms => ([], s.advance ms)

/-- The events of a run, in order, and the server then. -/
def run (s : Server) : List Step → List (String × Event) × Server
  | [] => ([], s)
  | e :: es =>
    let (now, s) := s.step e
    let (later, s) := s.run es
    (now ++ later, s)

/-- What the client of a stream sees of all events. -/
def heard (id : String) (events : List (String × Event)) : List Event :=
  events.filterMap fun e => if e.1 = id then some e.2 else none

variable (s : Server) {id : String}

@[simp] theorem heard_nil (id : String) : heard id [] = [] := rfl

theorem heard_append (id : String) (es es' : List (String × Event)) :
    heard id (es ++ es') = heard id es ++ heard id es' := List.filterMap_append

@[simp] theorem tagged_snd (id : String) (result : List Event × Server) :
    (tagged id result).2 = result.2 := rfl

@[simp] theorem heard_tagged (id : String) (result : List Event × Server) :
    heard id (tagged id result).1 = result.1 := by
  simp only [heard, tagged, List.filterMap_map, Function.comp_def, if_true, List.filterMap_some]

theorem heard_tagged_of_ne {other : String} (h : other ≠ id) (result : List Event × Server) :
    heard id (tagged other result).1 = [] := by
  simp [heard, tagged, List.filterMap_map, h]

@[simp] theorem run_nil : s.run [] = ([], s) := rfl

theorem run_cons (e : Step) (es : List Step) : s.run (e :: es) =
    ((s.step e).1 ++ ((s.step e).2.run es).1, ((s.step e).2.run es).2) := rfl

@[simp] theorem run_singleton (e : Step) : s.run [e] = s.step e := by simp [run_cons]

theorem run_append (es es' : List Step) : s.run (es ++ es') =
    ((s.run es).1 ++ ((s.run es).2.run es').1, ((s.run es).2.run es').2) := by
  induction es generalizing s with
  | nil => rfl
  | cons e es ih => simp only [List.cons_append, run_cons, ih, List.append_assoc]

/-! ### What is done in one go -/

/-- The events of several streams, one after the other. -/
def listed (events : List (String × List Event)) : List (String × Event) :=
  events.flatMap fun e => e.2.map fun x => (e.1, x)

theorem onEach_eq_run {f : Server → String → List Event × Server} {step : String → Step}
    (h : ∀ s id, Server.step s (step id) = tagged id (f s id)) (ids : List String) :
    s.run (ids.map step) = (listed (s.onEach f ids).1, (s.onEach f ids).2) := by
  induction ids generalizing s with
  | nil => rfl
  | cons id ids ih =>
      simp only [List.map_cons, run_cons, h, ih, onEach, listed, List.flatMap_cons]
      rfl

theorem run_publish (node : String) (xs : List Snapshot) :
    s.run (xs.map (.publish node)) =
      ([], { s with cache := xs.foldl (fun c x => c.set node x) s.cache }) := by
  induction xs generalizing s with
  | nil => rfl
  | cons x xs ih => simp only [List.map_cons, run_cons, step, ih, List.foldl_cons, List.nil_append]

/-- Setting snapshots publishes them, and then every stream pushes. -/
theorem set_eq_run (node : String) (xs : List Snapshot) :
    s.run (xs.map (.publish node) ++ s.streams.keys.map .push) =
      (listed (s.set node xs).1, (s.set node xs).2) := by
  rw [run_append, run_publish]
  simp only [List.nil_append]
  exact onEach_eq_run _ (fun _ _ => rfl) _

/-- The streams of a server that is shutting down end one after the other. -/
theorem drain_eq_run :
    s.run (.shutDown :: s.streams.keys.map .close) = (listed s.drain.1, s.drain.2) :=
  onEach_eq_run { s with draining := true } (fun _ _ => rfl) _

theorem sendAll_of_none (h : s.streams.find? id = none) (rs : List Request) :
    s.sendAll id rs = ([], s) := by
  cases rs <;> simp [sendAll, h]

/-- Requests are handed to a stream one by one. -/
theorem sendAll_eq_run (id : String) (rs : List Request) :
    s.run (rs.map (.request id)) = tagged id (s.sendAll id rs) := by
  induction rs generalizing s with
  | nil => rfl
  | cons r rs ih =>
      simp only [List.map_cons, run_cons, step, ih, sendAll]
      cases ho : s.streams.find? id with
      | none => simp [tagged, sendAll_of_none s ho]
      | some o =>
          cases hr : o.stream.request s.counts s.cache r with
          | error status =>
              have hgone : (s.finish id).streams.find? id = none := by simp [finish, ho]
              simp [tagged, hr, sendAll_of_none _ hgone]
          | ok found => simp [tagged, hr]

/-! ### What is done on a stream -/

/-- What is done on a stream leaves the other streams and what is published. -/
structure On (id : String) (s s' : Server) : Prop where
  others : ∀ other ≠ id, s'.streams.find? other = s.streams.find? other
  channels : ∀ node, s'.cache.channel node = s.cache.channel node
  draining : s'.draining = s.draining

theorem On.refl (id : String) (s : Server) : On id s s := ⟨fun _ _ => rfl, fun _ => rfl, rfl⟩

theorem On.trans {s s' s'' : Server} (h : On id s s') (h' : On id s' s'') : On id s s'' where
  others other ho := (h'.others other ho).trans (h.others other ho)
  channels node := (h'.channels node).trans (h.channels node)
  draining := h'.draining.trans h.draining

theorem on_finish (id : String) : On id s (s.finish id) := by
  unfold finish
  cases s.streams.find? id with
  | none => exact .refl id s
  | some o => exact ⟨fun _ ho => Table.find?_erase_of_ne _ ho, fun _ => rfl, rfl⟩

theorem on_endStream (id : String) : On id s (s.endStream id).2 := by
  unfold endStream
  cases s.streams.contains id with
  | true => exact s.on_finish id
  | false => exact .refl id s

/-- A server with a new stream under an id. -/
def withStream (id : String) (fixed : Option ResourceType) : Server :=
  { s with
    streams := s.streams.insert id ⟨{ fixed }, s.now⟩
    counts := s.counts.openStream }

/-- A stream is opened once the one before it has ended, and ends if the server shuts down. -/
theorem openStream_snd (id : String) (fixed : Option ResourceType) :
    (s.openStream id fixed).2 =
      if s.draining then (((s.endStream id).2.withStream id fixed).endStream id).2
      else (s.endStream id).2.withStream id fixed := by
  rw [← (s.on_endStream id).draining, openStream]
  generalize s.endStream id = ended
  obtain ⟨before, s₀⟩ := ended
  cases hd : s₀.draining <;> simp [withStream, hd]

theorem on_openStream (id : String) (fixed : Option ResourceType) :
    On id s (s.openStream id fixed).2 := by
  have hnew : On id s ((s.endStream id).2.withStream id fixed) :=
    (s.on_endStream id).trans ⟨fun _ ho => Table.find?_insert_of_ne _ ho _, fun _ => rfl, rfl⟩
  rw [openStream_snd]
  split
  · exact hnew.trans (on_endStream _ id)
  · exact hnew

theorem on_pushOn (id : String) : On id s (s.pushOn id).2 := by
  unfold pushOn
  cases s.streams.find? id with
  | none => exact .refl id s
  | some o => exact ⟨fun _ ho => Table.find?_insert_of_ne _ ho _, fun _ => rfl, rfl⟩

theorem on_sendAll (id : String) (rs : List Request) : On id s (s.sendAll id rs).2 := by
  induction rs generalizing s with
  | nil => exact .refl id s
  | cons r rs ih =>
      unfold sendAll
      cases s.streams.find? id with
      | none => exact .refl id s
      | some o =>
          dsimp only
          cases hr : o.stream.request s.counts s.cache r with
          | error status => exact s.on_finish id
          | ok found =>
              obtain ⟨response, stream, counts, cache⟩ := found
              refine On.trans ?_ (ih _)
              exact ⟨fun _ ho => Table.find?_insert_of_ne _ ho _,
                fun node => Stream.channel_request hr node, rfl⟩

/-- A fetch is only counted. -/
theorem exists_fetch_eq (t : ResourceType) (r : Request) :
    ∃ counts, (s.fetch t r).2 = { s with counts } := by
  unfold fetch
  cases Discovery.fetch s.counts s.cache t r with
  | error status => exact ⟨s.counts, rfl⟩
  | ok answer => exact ⟨answer.2, rfl⟩

theorem on_step {e : Step} (h : e.on? = some id) : On id s (s.step e).2 := by
  cases e with
  | openStream other fixed => cases h; exact s.on_openStream id fixed
  | request other r => cases h; exact s.on_sendAll id [r]
  | push other => cases h; exact s.on_pushOn id
  | close other => cases h; exact s.on_endStream id
  | reset other => cases h; exact s.on_finish id
  | publish | fetch | shutDown | advance => cases h

theorem heard_step_of_ne {e : Step} (h : e.on? ≠ some id) : heard id (s.step e).1 = [] := by
  cases e with
  | openStream | request | push | close =>
      exact heard_tagged_of_ne (fun ho => h (congrArg some ho)) _
  | reset | publish | fetch | shutDown | advance => rfl

theorem find?_step_of_ne {e : Step} (h : e.on? ≠ some id) :
    (s.step e).2.streams.find? id = s.streams.find? id := by
  cases he : e.on? with
  | some other => exact (s.on_step he).others id fun ho => h (ho ▸ he)
  | none =>
      cases e with
      | fetch t r =>
          obtain ⟨counts, hfetch⟩ := s.exists_fetch_eq t r
          rw [step, hfetch]
      | publish | shutDown | advance => rfl
      | openStream | request | push | close | reset => cases he

theorem channel_step_of_ne {node : String} {e : Step} (h : ∀ x, e ≠ .publish node x) :
    (s.step e).2.cache.channel node = s.cache.channel node := by
  cases he : e.on? with
  | some id => exact (s.on_step he).channels node
  | none =>
      cases e with
      | publish other x =>
          have ho : node ≠ other := fun ho => h x (congrArg (Step.publish · x) ho.symm)
          exact Cache.channel_set_of_ne s.cache ho x
      | fetch t r =>
          obtain ⟨counts, hfetch⟩ := s.exists_fetch_eq t r
          rw [step, hfetch]
      | shutDown | advance => rfl
      | openStream | request | push | close | reset => cases he

theorem draining_step_of_ne {e : Step} (h : e ≠ .shutDown) :
    (s.step e).2.draining = s.draining := by
  cases he : e.on? with
  | some id => exact (s.on_step he).draining
  | none =>
      cases e with
      | fetch t r =>
          obtain ⟨counts, hfetch⟩ := s.exists_fetch_eq t r
          rw [step, hfetch]
      | shutDown => exact absurd rfl h
      | publish | advance => rfl
      | openStream | request | push | close | reset => cases he

theorem draining_run {es : List Step} (h : Step.shutDown ∉ es) :
    (s.run es).2.draining = s.draining := by
  induction es generalizing s with
  | nil => rfl
  | cons e es ih =>
      have he : e ≠ .shutDown := fun he => h (he ▸ List.mem_cons_self)
      rw [run_cons]
      exact (ih _ fun he => h (List.mem_cons_of_mem e he)).trans (s.draining_step_of_ne he)

theorem find?_finish (id : String) : (s.finish id).streams.find? id = none := by
  unfold finish
  cases hs : s.streams.find? id with
  | none => exact hs
  | some o => exact Table.find?_erase_self _ _

theorem find?_endStream (id : String) : (s.endStream id).2.streams.find? id = none := by
  cases hs : s.streams.find? id with
  | none => simp [endStream, Table.contains, hs]
  | some o => simp [endStream, Table.contains, hs, find?_finish]

theorem find?_openStream (id : String) (fixed : Option ResourceType) :
    ((s.openStream id fixed).2.streams.find? id).map OpenStream.stream =
      if s.draining then none else some { fixed } := by
  rw [openStream_snd]
  cases s.draining with
  | true => exact congrArg _ (find?_endStream _ id)
  | false => simp [withStream]

variable {s}

/-! ### A stream without a node -/

/-- A stream that has had no request. -/
def Waiting (id : String) (s : Server) : Prop :=
  ∃ o, s.streams.find? id = some o ∧ o.stream.watcher = none

theorem step_of_absent (hs : s.streams.find? id = none) {e : Step}
    (hopen : ∀ fixed, e ≠ .openStream id fixed) :
    heard id (s.step e).1 = [] ∧ (s.step e).2.streams.find? id = none := by
  by_cases he : e.on? = some id
  · cases e with
    | openStream other fixed =>
        cases he
        exact absurd rfl (hopen fixed)
    | request other r => cases he; simp [step, sendAll_of_none s hs, hs]
    | push other => cases he; simp [step, pushOn, hs]
    | close other => cases he; simp [step, endStream, Table.contains, hs]
    | reset other => cases he; exact ⟨rfl, s.find?_finish id⟩
    | publish | fetch | shutDown | advance => cases he
  · exact ⟨s.heard_step_of_ne he, (s.find?_step_of_ne he).trans hs⟩

/-- A stream that is over hears nothing more. -/
theorem heard_of_absent (hs : s.streams.find? id = none) (es : List Step)
    (hopen : ∀ fixed, Step.openStream id fixed ∉ es) : heard id (s.run es).1 = [] := by
  induction es generalizing s with
  | nil => rfl
  | cons e es ih =>
      obtain ⟨hnow, hgone⟩ := step_of_absent hs (e := e) fun fixed he =>
        hopen fixed (he ▸ List.mem_cons_self)
      rw [run_cons, heard_append, hnow, List.nil_append]
      exact ih hgone fun fixed he => hopen fixed (List.mem_cons_of_mem e he)

theorem waiting_openStream (h : s.draining = false) (id : String) (fixed : Option ResourceType) :
    Waiting id (s.openStream id fixed).2 := by
  have hopened := s.find?_openStream id fixed
  rw [h, if_neg Bool.false_ne_true] at hopened
  obtain ⟨o, ho, hst⟩ := Option.map_eq_some_iff.1 hopened
  exact ⟨o, ho, hst ▸ rfl⟩

theorem Waiting.step (h : Waiting id s) {e : Step} (he : e.on? = some id → e = .push id) :
    heard id (s.step e).1 = [] ∧ Waiting id (s.step e).2 := by
  by_cases hid : e.on? = some id
  · obtain ⟨o, ho, hw⟩ := h
    have hpush := o.stream.push_of_seen s.counts (c := s.cache) fun w hw' => by
      cases hw.symm.trans hw'
    rw [he hid]
    simp only [Server.step, heard_tagged, tagged_snd, pushOn, ho, hpush]
    exact ⟨rfl, _, Table.find?_insert_self _ _ _, hw⟩
  · obtain ⟨o, ho, hw⟩ := h
    exact ⟨s.heard_step_of_ne hid, o, (s.find?_step_of_ne hid).trans ho, hw⟩

theorem Waiting.run (h : Waiting id s) {es : List Step}
    (he : ∀ e ∈ es, e.on? = some id → e = .push id) :
    heard id (s.run es).1 = [] ∧ Waiting id (s.run es).2 := by
  induction es generalizing s with
  | nil => exact ⟨rfl, h⟩
  | cons e es ih =>
      obtain ⟨hnow, hwaiting⟩ := h.step (he e List.mem_cons_self)
      obtain ⟨hlater, hwaiting⟩ := ih hwaiting fun e' he' => he e' (List.mem_cons_of_mem e he')
      rw [run_cons]
      exact ⟨by simp only [heard_append, hnow, hlater, List.nil_append], hwaiting⟩

/-- A first request that does not say its node is refused, and the stream is over. -/
theorem Waiting.request (h : Waiting id s) {r : Request} (hr : r.Unidentified) :
    s.step (.request id r) = ([(id, .failed missingNode)], s.finish id) := by
  obtain ⟨o, ho, hw⟩ := h
  have hrefused : o.stream.request s.counts s.cache r = .error missingNode := by
    rw [Stream.request, Stream.identify, hw]
    dsimp only
    rw [hr.nodeId_eq]
    rfl
  simp [Server.step, tagged, sendAll, ho, hrefused]

/-- Whatever happens on the stream other than a push ends it without a response. -/
theorem Waiting.over (h : Waiting id s) {e : Step} (he : e.on? = some id) (hpush : e ≠ .push id)
    (hopen : ∀ fixed, e ≠ .openStream id fixed)
    (hr : ∀ r, e.request? id = some r → r.Unidentified) (x : Response) :
    .response x ∉ heard id (s.step e).1 ∧ (s.step e).2.streams.find? id = none := by
  cases e with
  | openStream other fixed =>
      cases he
      exact absurd rfl (hopen fixed)
  | request other r =>
      cases he
      rw [h.request (hr r (if_pos rfl))]
      exact ⟨by simp [heard], s.find?_finish id⟩
  | push other =>
      cases he
      exact absurd rfl hpush
  | close other =>
      cases he
      obtain ⟨o, ho, -⟩ := h
      simp [Server.step, endStream, Table.contains, ho, find?_finish]
  | reset other =>
      cases he
      exact ⟨List.not_mem_nil, s.find?_finish id⟩
  | publish | fetch | shutDown | advance => cases he

theorem Waiting.no_response (h : Waiting id s) (es : List Step)
    (hopen : ∀ fixed, Step.openStream id fixed ∉ es)
    (hfirst : ∀ first, (es.filterMap (Step.request? id)).head? = some first → first.Unidentified)
    (x : Response) : .response x ∉ heard id (s.run es).1 := by
  induction es generalizing s with
  | nil => exact List.not_mem_nil
  | cons e es ih =>
      have hopen' : ∀ fixed, Step.openStream id fixed ∉ es := fun fixed he =>
        hopen fixed (List.mem_cons_of_mem e he)
      rw [run_cons, heard_append]
      by_cases he : e.on? = some id → e = .push id
      · obtain ⟨hnow, hwaiting⟩ := h.step he
        have hr : e.request? id = none := by
          cases e with
          | request other r =>
              refine if_neg fun ho => ?_
              cases he (congrArg some ho)
          | openStream | push | close | reset | publish | fetch | shutDown | advance => rfl
        -- the first request is still to come
        rw [hnow, List.nil_append]
        exact ih hwaiting hopen' fun first hhead =>
          hfirst first (by rwa [List.filterMap_cons_none hr])
      · obtain ⟨hid, hpush⟩ := Classical.not_imp.1 he
        obtain ⟨hnow, hgone⟩ := h.over hid hpush (fun fixed ho => hopen fixed (by simp [ho]))
          (fun r hr => hfirst r (by rw [List.filterMap_cons_some hr, List.head?_cons])) x
        rw [heard_of_absent hgone es hopen', List.append_nil]
        exact hnow

end Server

end WafControl.Discovery
