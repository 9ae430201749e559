import WafControl.Proofs.Sessions

/-!
# What a stream reads

Of the cache, a stream reads the channel of the node that it watches. Of a request it reads the node
only while it watches none. It counts what it sends and what is rejected, but reads no counts. So
two streams that are alike stay alike, and send the same, as long as the channel is the same
(`request_alike`, `push_alike`).
-/

namespace WafControl.Discovery

namespace Subscriptions

variable (s : Subscriptions)

theorem pushAll_counts (m m' : Counts) (x : Snapshot) (ts : List ResourceType) :
    (s.pushAll m' x ts).1 = (s.pushAll m x ts).1 ∧
      (s.pushAll m' x ts).2.1 = (s.pushAll m x ts).2.1 := by
  induction ts generalizing s m m' with
  | nil => exact ⟨rfl, rfl⟩
  | cons t ts ih =>
      obtain ⟨hsent, hsubs⟩ := ih (s.sent t x) (m.respond t) (m'.respond t)
      exact ⟨congrArg (s.response t x :: ·) hsent, hsubs⟩

/-- Handling a request reads neither the counts nor the node it names. -/
theorem handleRequest_counts (m m' : Counts) (fixed : Option ResourceType) (r : Request)
    (node : Option String) (snapshot : Option Snapshot) :
    (s.handleRequest m' fixed { r with node } snapshot).1 =
        (s.handleRequest m fixed r snapshot).1 ∧
      (s.handleRequest m' fixed { r with node } snapshot).2.1 =
        (s.handleRequest m fixed r snapshot).2.1 := by
  have htype : typeOf? fixed { r with node } = typeOf? fixed r := rfl
  rw [handleRequest, htype, handleRequest]
  cases typeOf? fixed r with
  | none => exact ⟨rfl, rfl⟩
  | some t =>
      have hverdict : verdict (s.subscription t) { r with node } snapshot =
        verdict (s.subscription t) r snapshot := rfl
      dsimp only
      rw [s.handleTyped_eq m', s.handleTyped_eq m, hverdict]
      cases verdict (s.subscription t) r snapshot <;> exact ⟨rfl, rfl⟩

end Subscriptions

theorem Request.nodeId_eq_ok {node : String} (h : node ≠ "") {r : Request}
    (hr : r.node = some node) : r.nodeId = .ok node := by
  rw [nodeId, hr]
  exact if_neg h

/-- The request does not say its node. -/
def Request.Unidentified (r : Request) : Prop := r.node = none ∨ r.node = some ""

theorem Request.Unidentified.nodeId_eq {r : Request} (h : r.Unidentified) :
    r.nodeId = .error missingNode := by
  obtain h | h := h <;> rw [Request.nodeId, h]
  rfl

namespace Stream

/-- A request publishes nothing. -/
theorem channel_request {st st' : Stream} {m m' : Counts} {c c' : Cache} {r : Request}
    {response : Option Response} (h : st.request m c r = .ok (response, st', m', c'))
    (node : String) : c'.channel node = c.channel node := by
  obtain ⟨fixed, watcher, subs⟩ := st
  cases watcher with
  | some w =>
      cases h
      rfl
  | none =>
      cases hn : r.nodeId with
      | error status => simp [request, identify, hn, Except.map] at h
      | ok named =>
          simp only [request, identify, hn, Except.map, Except.ok.injEq, Prod.mk.injEq] at h
          obtain ⟨-, -, -, rfl⟩ := h
          exact c.channel_watch named node

variable (st : Stream) {node : String}

/-- The watcher of a stream, which watches the node if it has watched none before. -/
def reader (node : String) (c : Cache) : Watcher :=
  st.watcher.getD ⟨node, (c.channel node).sets⟩

theorem identify_eq (c : Cache) {r : Request} (hn : st.watcher = none → r.nodeId = .ok node) :
    ∃ c₁, st.identify c r = .ok (st.reader node c, c₁) ∧ ∀ n, c₁.channel n = c.channel n := by
  cases hw : st.watcher with
  | some w => exact ⟨c, by simp [identify, reader, hw], fun _ => rfl⟩
  | none =>
      refine ⟨(c.watch node).2, ?_, c.channel_watch node⟩
      simp only [identify, reader, hw, hn hw, Except.map, Option.getD_none]
      rw [← Cache.watch_fst]

/-- A request is answered from the channel of the node alone. -/
theorem request_alike (m m' : Counts) {c c' : Cache} {r : Request} (hnode : node ≠ "")
    (hw : ∀ w, st.watcher = some w → w.node = node)
    (hn : st.watcher = none → r.node = some node) (hc : c'.channel node = c.channel node) :
    ∃ response st₁ m₁ c₁ m₁' c₁', st.request m c r = .ok (response, st₁, m₁, c₁) ∧
      st.request m' c' { r with node := some node } = .ok (response, st₁, m₁', c₁') ∧
      st₁.watcher = some (st.reader node c) := by
  obtain ⟨c₁, hi, hc₁⟩ := st.identify_eq c fun h => Request.nodeId_eq_ok hnode (hn h)
  obtain ⟨c₁', hi', hc₁'⟩ := st.identify_eq c' fun _ =>
    Request.nodeId_eq_ok (r := { r with node := some node }) hnode rfl
  have hreader : st.reader node c' = st.reader node c := by rw [reader, hc, reader]
  have hreads : (st.reader node c).node = node := by
    unfold reader
    cases h : st.watcher with
    | none => rfl
    | some w => exact hw w h
  have hpeek : (st.reader node c).peek c₁' = (st.reader node c).peek c₁ := by
    rw [Watcher.peek, Watcher.peek, Cache.get, Cache.get, hreads, hc₁', hc₁, hc]
  obtain ⟨hresponse, hsubs⟩ := st.subscriptions.handleRequest_counts m m' st.fixed r (some node)
    ((st.reader node c).peek c₁)
  simp only [request, hi, hi', hreader, hpeek, Except.map, hresponse, hsubs]
  exact ⟨_, _, _, _, _, _, rfl, rfl, rfl⟩

theorem push_of_seen (m : Counts) {c : Cache}
    (h : ∀ w, st.watcher = some w → w.changed c = false) : st.push m c = ([], st, m) := by
  unfold push
  cases hw : st.watcher with
  | none => rfl
  | some w => simp [h w hw]

/-- What is pushed comes from the channel of the node alone. -/
theorem push_alike (m m' : Counts) {c c' : Cache} {w : Watcher} (hw : st.watcher = some w)
    (hc : c'.channel w.node = c.channel w.node) :
    (st.push m' c').1 = (st.push m c).1 ∧ (st.push m' c').2.1 = (st.push m c).2.1 := by
  have hchanged : w.changed c' = w.changed c := by rw [Watcher.changed, hc, Watcher.changed]
  have hpeek : w.peek c' = w.peek c := by
    rw [Watcher.peek, Cache.get, hc, Watcher.peek, Cache.get]
  have hsee : w.see c' = w.see c := by rw [Watcher.see, hc, Watcher.see]
  simp only [push, hw, hchanged, hpeek, hsee]
  cases w.changed c with
  | false => exact ⟨rfl, rfl⟩
  | true =>
      cases w.peek c with
      | none => exact ⟨rfl, rfl⟩
      | some x =>
          obtain ⟨hsent, hsubs⟩ := st.subscriptions.pushAll_counts m m' x
            (ResourceType.pushOrder.filter (st.subscriptions.outdated x.version))
          exact ⟨hsent, congrArg (Stream.mk st.fixed (some (w.see c))) hsubs⟩

/-- A stream that has pushed has seen what is published for its node. -/
theorem watcher_push (m : Counts) {c : Cache} {w : Watcher} (hw : st.watcher = some w) :
    ∃ w', (st.push m c).2.1.watcher = some w' ∧ w'.node = w.node ∧ w'.changed c = false := by
  simp only [push, hw]
  cases hchanged : w.changed c with
  | false => exact ⟨w, hw, rfl, hchanged⟩
  | true =>
      refine ⟨w.see c, ?_, rfl, by simp [Watcher.changed, Watcher.see, Signal.changedSince]⟩
      cases w.peek c <;> rfl

end Stream

end WafControl.Discovery
