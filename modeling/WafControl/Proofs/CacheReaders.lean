import WafControl.Proofs.NodeChannels

/-!
# The readers of a cache

Snapshots are set, and readers come and look, at any time. A client looks for the channel of a node
under one lock and makes a missing one under a second (`look_enter`), and anything may happen in
between. Readers that hold the channel they got are told what readers are that look their node up
(`Simulates`), and nobody misses a setting (`readers_served`).
-/

namespace WafControl

/-- A step of a client. Getting and reading change nothing, and can be done at any time. -/
inductive CacheStep where
  | set (node : String) (x : Snapshot)
  /-- A new client looks for the node's channel. -/
  | look (node : String)
  /-- The client at a place among those that found none makes the channel if it is still missing. -/
  | enter (i : Nat)
  /-- The reader at a place has seen the current snapshot. -/
  | see (i : Nat)

/-- What has happened to a cache. -/
inductive CacheEvent where
  | set (node : String) (x : Snapshot)
  /-- The reader at a place has come to watch the node. -/
  | watched (i : Nat) (node : String)
  | saw (i : Nat)
  deriving DecidableEq

namespace CacheEvent

/-- The latest snapshot that was set for a node. -/
def lastSet? (node : String) (events : List CacheEvent) : Option Snapshot :=
  events.findSome? fun
    | .set n x => if n = node then some x else none
    | _ => none

/-- A snapshot of the node was set after the reader had come and after what it saw last; the
latest event is the first one. -/
def Unseen (i : Nat) (node : String) (events : List CacheEvent) : Prop :=
  ∃ later x earlier, events = later ++ .set node x :: earlier ∧
    .watched i node ∈ earlier ∧ .saw i ∉ later

variable {i : Nat} {node : String} {events : List CacheEvent} {e : CacheEvent}

theorem Unseen.watched (h : Unseen i node events) : .watched i node ∈ events := by
  obtain ⟨later, x, earlier, rfl, hw, -⟩ := h
  exact List.mem_append_right later (List.mem_cons_of_mem _ hw)

theorem unseen_cons_iff :
    Unseen i node (e :: events) ↔
      (∃ x, e = .set node x) ∧ .watched i node ∈ events ∨ e ≠ .saw i ∧ Unseen i node events := by
  constructor
  · rintro ⟨_ | ⟨e', later⟩, x, earlier, heq, hw, hs⟩
    · obtain ⟨rfl, rfl⟩ := List.cons.inj heq
      exact .inl ⟨⟨x, rfl⟩, hw⟩
    · obtain ⟨rfl, rfl⟩ := List.cons.inj heq
      rw [List.mem_cons, not_or] at hs
      exact .inr ⟨Ne.symm hs.1, later, x, earlier, rfl, hw, hs.2⟩
  · rintro (⟨⟨x, rfl⟩, hw⟩ | ⟨he, later, x, earlier, rfl, hw, hs⟩)
    · exact ⟨[], x, events, rfl, hw, List.not_mem_nil⟩
    · exact ⟨e :: later, x, earlier, rfl, hw, by simp [he.symm, hs]⟩

end CacheEvent

/-- A cache with the clients that look at it. -/
structure CacheRun (γ ω : Type) where
  cache : γ
  /-- The nodes of the clients that found no channel and have yet to make it. -/
  looking : List String := []
  /-- The readers, each with its node. -/
  readers : List (String × ω) := []
  /-- What has happened, latest first. -/
  events : List CacheEvent := []

namespace CacheRun

open CacheEvent

variable {γ ω : Type}

def join (s : CacheRun γ ω) (node : String) (w : ω) : CacheRun γ ω :=
  { s with
    readers := s.readers ++ [(node, w)]
    events := .watched s.readers.length node :: s.events }

variable (ops : CacheOps γ ω)

def step (s : CacheRun γ ω) : CacheStep → CacheRun γ ω
  | .set node x => { s with cache := ops.set s.cache node x, events := .set node x :: s.events }
  | .look node =>
    match ops.subscribe? s.cache node with
    | some w => s.join node w
    | none => { s with looking := s.looking ++ [node] }
  | .enter i =>
    match s.looking[i]? with
    | none => s
    | some node =>
      let (w, cache) := ops.subscribeOrCreate s.cache node
      { s with cache, looking := s.looking.eraseIdx i }.join node w
  | .see i =>
    match s.readers[i]? with
    | none => s
    | some (node, w) =>
      { s with
        readers := s.readers.set i (node, ops.see w s.cache)
        events := .saw i :: s.events }

def run (steps : List CacheStep) : CacheRun γ ω := steps.foldl (step ops) { cache := ops.empty }

theorem run_concat (steps : List CacheStep) (a : CacheStep) :
    run ops (steps ++ [a]) = (run ops steps).step ops a := by
  rw [run, List.foldl_append]
  rfl

/-- The two halves of watching, with nothing in between, are `Cache.watch`. -/
theorem look_enter (s : CacheRun Cache Watcher) (node : String) :
    (s.step Cache.ops (.look node)).step Cache.ops (.enter s.looking.length) =
      { s with cache := (s.cache.watch node).2 }.join node (s.cache.watch node).1 := by
  rw [Cache.watch_eq_subscribeOrCreate]
  cases hw : s.cache.subscribe? node with
  | none =>
      have hs : Cache.ops.subscribe? s.cache node = none := hw
      simp only [step, hs, List.getElem?_concat_length,
        List.eraseIdx_append_of_length_le (Nat.le_refl _), Nat.sub_self, List.eraseIdx_cons_zero,
        List.append_nil]
      rfl
  | some w =>
      have hs : Cache.ops.subscribe? s.cache node = some w := hw
      simp only [step, hs, CacheRun.join, List.getElem?_length, Cache.subscribeOrCreate, hw]

/-- Every node is served the snapshot that was set last, so is every reader of it, and a reader
knows of a change if and only if something was set that it has not seen. -/
structure Served (s : CacheRun γ ω) : Prop where
  get : ∀ node, ops.get s.cache node = lastSet? node s.events
  peek : ∀ p ∈ s.readers, ops.peek p.2 s.cache = lastSet? p.1 s.events
  changed : ∀ i p, s.readers[i]? = some p →
    (ops.changed p.2 s.cache = true ↔ Unseen i p.1 s.events)

/-- `Served` for readers that name their node, with what is needed of the readers to keep it. -/
structure Informed (s : CacheRun Cache Watcher) : Prop where
  get : ∀ node, s.cache.get node = lastSet? node s.events
  watched : ∀ i node, .watched i node ∈ s.events ↔ (s.readers.map Prod.fst)[i]? = some node
  named : ∀ p ∈ s.readers, p.2.node = p.1
  seen : ∀ p ∈ s.readers, p.2.seen ≤ (s.cache.channel p.1).sets
  changed : ∀ i p, s.readers[i]? = some p →
    (p.2.changed s.cache = true ↔ Unseen i p.1 s.events)

section Informed

variable {s : CacheRun Cache Watcher}

theorem Informed.served (h : s.Informed) : s.Served Cache.ops where
  get := h.get
  peek p hp := (congrArg s.cache.get (h.named p hp)).trans (h.get p.1)
  changed := h.changed

theorem Informed.start : (run Cache.ops []).Informed where
  get _ := rfl
  watched := by simp [run]
  named := by simp [run]
  seen := by simp [run]
  changed := by simp [run]

/-- The event that brought a reader. -/
theorem Informed.came (h : s.Informed) {i : Nat} {p : String × Watcher}
    (hp : s.readers[i]? = some p) : .watched i p.1 ∈ s.events :=
  (h.watched i p.1).2 (by rw [List.getElem?_map, hp, Option.map_some])

theorem Informed.set (h : s.Informed) (node : String) (x : Snapshot) :
    (s.step Cache.ops (.set node x)).Informed := by
  refine
    { get := fun n => ?_, watched := fun i n => ?_, named := h.named
      seen := fun p hp => Nat.le_trans (h.seen p hp) (Cache.sets_le_set s.cache node p.1 x)
      changed := fun i p hp => ?_ }
  · by_cases hn : n = node
    · subst hn
      simp [step, Cache.ops, lastSet?]
    · simpa [step, Cache.ops, lastSet?, Ne.symm hn] using
        (Cache.get_set_of_ne s.cache hn x).trans (h.get n)
  · simpa [step] using h.watched i n
  · replace hp : s.readers[i]? = some p := hp
    have hmem := List.mem_of_getElem? hp
    obtain ⟨n, w⟩ := p
    obtain rfl : w.node = n := h.named _ hmem
    by_cases hn : w.node = node
    · subst hn
      have hc : w.changed (s.cache.set w.node x) = true :=
        Watcher.changed_set_self (h.seen _ hmem) x
      exact iff_of_true hc (unseen_cons_iff.2 (.inl ⟨⟨x, rfl⟩, h.came hp⟩))
    · have hc : w.changed (s.cache.set node x) = w.changed s.cache :=
        Watcher.changed_set_of_ne hn s.cache x
      simpa [step, Cache.ops, unseen_cons_iff, hc, Ne.symm hn] using h.changed i _ hp

/-- A reader that comes has seen what there is, and changes no channel. -/
theorem Informed.join (h : s.Informed) (node : String) {cache : Cache} {looking : List String}
    (hc : ∀ n, cache.channel n = s.cache.channel n) :
    ({ s with cache, looking }.join node ⟨node, (s.cache.channel node).sets⟩).Informed := by
  have hnew : .watched s.readers.length node ∉ s.events := by
    simp [h.watched]
  refine
    { get := fun n => ?_, watched := fun i n => ?_, named := fun p hp => ?_
      seen := fun p hp => ?_, changed := fun i p hp => ?_ }
  · simpa [CacheRun.join, lastSet?, Cache.get, hc] using h.get n
  · have := InOrder.getElem?_concat_iff (s.readers.map Prod.fst) node n i
    simp only [CacheRun.join, List.mem_cons, List.map_append, List.map_cons, List.map_nil, this,
      h.watched, CacheEvent.watched.injEq, List.length_map]
    tauto
  · rcases List.mem_append.1 hp with hp | hp
    · exact h.named p hp
    · rw [List.mem_singleton.1 hp]
  · rw [show (CacheRun.join _ node _).cache = cache from rfl, hc]
    rcases List.mem_append.1 hp with hp | hp
    · exact h.seen p hp
    · cases List.mem_singleton.1 hp
      exact Nat.le_refl _
  · rcases (InOrder.getElem?_concat_iff _ _ _ _).1 hp with hp | ⟨rfl, rfl⟩
    · simpa [CacheRun.join, Watcher.changed, hc, unseen_cons_iff] using h.changed i p hp
    · simp only [CacheRun.join, Watcher.changed, hc, unseen_cons_iff]
      simpa [Signal.changedSince] using fun hu => hnew (Unseen.watched hu)

theorem map_fst_set {rs : List (String × ω)} {i : Nat} {n : String} {w : ω}
    (hi : rs[i]? = some (n, w)) (w' : ω) : (rs.set i (n, w')).map Prod.fst = rs.map Prod.fst := by
  obtain ⟨hlt, hw⟩ := List.getElem?_eq_some_iff.1 hi
  have hlt : i < (rs.map Prod.fst).length := by simpa using hlt
  have hn : (rs.map Prod.fst)[i] = n := by simp [hw]
  rw [List.map_set, ← hn]
  exact List.set_getElem_self hlt

theorem Informed.see (h : s.Informed) (i : Nat) : (s.step Cache.ops (.see i)).Informed := by
  cases hi : s.readers[i]? with
  | none => simpa only [step, hi] using h
  | some q =>
      obtain ⟨n, w⟩ := q
      have hmem := List.mem_of_getElem? hi
      obtain rfl : w.node = n := h.named _ hmem
      simp only [step, hi]
      refine
        { get := fun n => ?_, watched := fun j n => ?_, named := fun p hp => ?_
          seen := fun p hp => ?_, changed := fun j p hp => ?_ }
      · simpa [lastSet?] using h.get n
      · simpa [map_fst_set hi] using h.watched j n
      · rcases List.mem_or_eq_of_mem_set hp with hp | rfl
        · exact h.named p hp
        · rfl
      · rcases List.mem_or_eq_of_mem_set hp with hp | rfl
        · exact h.seen p hp
        · exact Nat.le_refl _
      · by_cases hj : i = j
        · subst hj
          rw [List.getElem?_set_self (List.getElem?_eq_some_iff.1 hi).1] at hp
          cases hp
          simp [Cache.ops, Watcher.see, Watcher.changed, Signal.changedSince, unseen_cons_iff]
        · rw [List.getElem?_set_ne hj] at hp
          simpa [unseen_cons_iff, hj] using h.changed j p hp

theorem Informed.step (h : s.Informed) (a : CacheStep) : (s.step Cache.ops a).Informed := by
  cases a with
  | set node x => exact h.set node x
  | look node =>
      cases hw : s.cache.subscribe? node with
      | none =>
          rw [show s.step Cache.ops (.look node) = { s with looking := s.looking ++ [node] } by
            simp only [CacheRun.step, show Cache.ops.subscribe? s.cache node = none from hw]]
          exact { h with }
      | some w =>
          rw [show s.step Cache.ops (.look node) = s.join node w by
            simp only [CacheRun.step, show Cache.ops.subscribe? s.cache node = some w from hw],
            Cache.subscribe?_eq_some hw]
          exact h.join node fun _ => rfl
  | enter i =>
      cases hn : s.looking[i]? with
      | none => simpa only [CacheRun.step, hn] using h
      | some node =>
          have hw := Cache.watch_fst s.cache node
          have hc := Cache.channel_watch s.cache node
          rw [Cache.watch_eq_subscribeOrCreate] at hw
          simp only [Cache.watch_eq_subscribeOrCreate] at hc
          simp only [CacheRun.step, hn]
          exact hw ▸ h.join node hc
  | see i => exact h.see i

end Informed

/-- The reader that names its node in place of its channel. -/
def named (p : String × Receiver) : String × Watcher := (p.1, ⟨p.1, p.2.seen⟩)

/-- Readers that hold their channels are told what readers are that look their node up. -/
structure Simulates (t : CacheRun Channels Receiver) (s : CacheRun Cache Watcher) : Prop where
  owned : t.cache.Owned
  channel : ∀ node, s.cache.channels.find? node = t.cache.channel? node
  looking : s.looking = t.looking
  events : s.events = t.events
  readers : s.readers = t.readers.map named
  current : ∀ p ∈ t.readers, t.cache.current.find? p.1 = some p.2.place

section Simulates

variable {t : CacheRun Channels Receiver} {s : CacheRun Cache Watcher}

theorem Simulates.start : Simulates (run Channels.ops []) (run Cache.ops []) where
  owned := Channels.owned_empty
  channel _ := rfl
  looking := rfl
  events := rfl
  readers := rfl
  current := by simp [run]

theorem Simulates.channel_node (h : Simulates t s) (node : String) :
    s.cache.channel node = (t.cache.channel? node).getD Channel.unused := by
  rw [Cache.channel, h.channel]

theorem Simulates.channel_reader (h : Simulates t s) {p : String × Receiver}
    (hp : p ∈ t.readers) : s.cache.channel p.1 = t.cache.signal p.2.place := by
  rw [h.channel_node, Channels.channel?, h.current p hp, Option.map_some, Option.getD_some]

theorem Simulates.set (h : Simulates t s) (node : String) (x : Snapshot) :
    Simulates (t.step Channels.ops (.set node x)) (s.step Cache.ops (.set node x)) where
  owned := h.owned.set node x
  channel n := by
    change (s.cache.set node x).channels.find? n = (t.cache.set node x).channel? n
    by_cases hn : n = node
    · subst hn
      rw [h.owned.channel?_set_self, ← h.channel_node]
      exact Table.find?_insert_self _ _ _
    · rw [h.owned.channel?_set_of_ne hn, ← h.channel]
      exact Table.find?_insert_of_ne _ hn _
  looking := h.looking
  events := congrArg (CacheEvent.set node x :: ·) h.events
  readers := h.readers
  current p hp := Channels.find?_set (h.current p hp) node x

theorem Simulates.join (h : Simulates t s) {node : String} {chs : Channels} {c : Cache}
    {r : Receiver} (hr : t.cache.Subscribed node r chs)
    (hc : ∀ n, c.channels.find? n = chs.channel? n) (looking : List String) :
    Simulates ({ t with cache := chs, looking }.join node r)
      ({ s with cache := c, looking }.join node ⟨node, (s.cache.channel node).sets⟩) where
  owned := hr.owned
  channel := hc
  looking := rfl
  events := by simp [CacheRun.join, h.events, h.readers]
  readers := by simp [CacheRun.join, h.readers, named, hr.seen, h.channel_node]
  current p hp := by
    rcases List.mem_append.1 hp with hp | hp
    · exact hr.kept _ _ (h.current p hp)
    · rw [List.mem_singleton.1 hp]
      exact hr.place

theorem Simulates.look (h : Simulates t s) (node : String) :
    Simulates (t.step Channels.ops (.look node)) (s.step Cache.ops (.look node)) := by
  cases hp : t.cache.current.find? node with
  | none =>
      have ht : Channels.ops.subscribe? t.cache node = none := by
        simp [Channels.ops, Channels.subscribe?, hp]
      have hs : Cache.ops.subscribe? s.cache node = none := by
        simp [Cache.ops, Cache.subscribe?, h.channel, Channels.channel?, hp]
      simp only [step, ht, hs]
      exact { h with looking := congrArg (· ++ [node]) h.looking }
  | some place =>
      obtain ⟨r, hr⟩ : ∃ r, t.cache.subscribe? node = some r := by
        simp [Channels.subscribe?, hp]
      obtain ⟨w, hw⟩ : ∃ w, s.cache.subscribe? node = some w := by
        simp [Cache.subscribe?, h.channel, Channels.channel?, hp]
      have hjoin := h.join (h.owned.subscribed_of_some hr) h.channel t.looking
      rw [← Cache.subscribe?_eq_some hw] at hjoin
      rw [show t.step Channels.ops (.look node) = t.join node r by
          simp only [step, show Channels.ops.subscribe? t.cache node = some r from hr],
        show s.step Cache.ops (.look node) = { s with looking := t.looking }.join node w by
          simp only [step, ← h.looking, show Cache.ops.subscribe? s.cache node = some w from hw]]
      exact hjoin

theorem Simulates.enter (h : Simulates t s) (i : Nat) :
    Simulates (t.step Channels.ops (.enter i)) (s.step Cache.ops (.enter i)) := by
  cases hn : t.looking[i]? with
  | none => simpa only [step, h.looking, hn] using h
  | some node =>
      have hr := h.owned.subscribed node
      have hw := Cache.watch_fst s.cache node
      rw [Cache.watch_eq_subscribeOrCreate] at hw
      have hc : ∀ n, (s.cache.subscribeOrCreate node).2.channels.find? n =
          (t.cache.subscribeOrCreate node).2.channel? n := by
        intro n
        by_cases hne : n = node
        · subst hne
          rw [hr.self, Cache.find?_subscribeOrCreate_self, h.channel_node]
        · rw [hr.others n hne, Cache.find?_subscribeOrCreate_of_ne hne, h.channel]
      simp only [step, h.looking, hn]
      exact hw ▸ h.join hr hc _

theorem Simulates.see (h : Simulates t s) (i : Nat) :
    Simulates (t.step Channels.ops (.see i)) (s.step Cache.ops (.see i)) := by
  have hs : s.readers[i]? = (t.readers[i]?).map named := by rw [h.readers, List.getElem?_map]
  cases hp : t.readers[i]? with
  | none =>
      rw [hp, Option.map_none] at hs
      simpa only [step, hs, hp] using h
  | some p =>
      obtain ⟨n, r⟩ := p
      rw [hp, Option.map_some, named] at hs
      have hmem := List.mem_of_getElem? hp
      have hch := h.channel_reader hmem
      simp only [step, hs, hp]
      refine { h with events := ?_, readers := ?_, current := fun p hp => ?_ }
      · exact congrArg (CacheEvent.saw i :: ·) h.events
      · simp only [List.map_set, h.readers]
        simp only [named, Cache.ops, Channels.ops, Watcher.see]
        rw [hch]
      · rcases List.mem_or_eq_of_mem_set hp with hp | rfl
        · exact h.current p hp
        · exact h.current (n, r) hmem

theorem Simulates.step (h : Simulates t s) (a : CacheStep) :
    Simulates (t.step Channels.ops a) (s.step Cache.ops a) := by
  cases a with
  | set node x => exact h.set node x
  | look node => exact h.look node
  | enter i => exact h.enter i
  | see i => exact h.see i

/-- What readers are told that look their node up, those are told that hold their channel. -/
theorem Simulates.served (h : Simulates t s) (hs : s.Served Cache.ops) :
    t.Served Channels.ops where
  get node := by
    rw [← h.events, ← hs.get node]
    change (t.cache.channel? node).bind Signal.latest = (s.cache.channel node).latest
    rw [h.channel_node]
    cases t.cache.channel? node <;> rfl
  peek p hp := by
    have hmem : named p ∈ s.readers := h.readers ▸ List.mem_map_of_mem hp
    rw [← h.events]
    refine Eq.trans ?_ (hs.peek _ hmem)
    exact congrArg Signal.latest (h.channel_reader hp).symm
  changed i p hp := by
    have hi : s.readers[i]? = some (named p) := by
      rw [h.readers, List.getElem?_map, hp, Option.map_some]
    rw [← h.events]
    refine Iff.trans ?_ (hs.changed i _ hi)
    change ((t.cache.signal p.2.place).changedSince p.2.seen = true) ↔
      ((s.cache.channel p.1).changedSince p.2.seen = true)
    rw [h.channel_reader (List.mem_of_getElem? hp)]

end Simulates

theorem informed_run (steps : List CacheStep) : (run Cache.ops steps).Informed := by
  induction steps using List.reverseRecOn with
  | nil => exact Informed.start
  | append_singleton steps a ih => exact run_concat Cache.ops steps a ▸ ih.step a

theorem simulates_run (steps : List CacheStep) :
    Simulates (run Channels.ops steps) (run Cache.ops steps) := by
  induction steps using List.reverseRecOn with
  | nil => exact Simulates.start
  | append_singleton steps a ih => simpa only [run_concat] using ih.step a

/-- A node keeps the channel that it has. -/
theorem place_step {t : CacheRun Channels Receiver} (ho : t.cache.Owned) {node : String}
    {place : Nat} (hp : t.cache.current.find? node = some place) (a : CacheStep) :
    (t.step Channels.ops a).cache.current.find? node = some place := by
  cases a with
  | set n x => exact Channels.find?_set hp n x
  | look n =>
      simp only [step]
      split <;> exact hp
  | enter i =>
      simp only [step]
      split
      · exact hp
      · exact (ho.subscribed _).kept node place hp
  | see i =>
      simp only [step]
      split <;> exact hp

theorem place_run (steps more : List CacheStep) {node : String} {place : Nat}
    (hp : (run Channels.ops steps).cache.current.find? node = some place) :
    (run Channels.ops (steps ++ more)).cache.current.find? node = some place := by
  induction more using List.reverseRecOn with
  | nil => rwa [List.append_nil]
  | append_singleton more a ih =>
      rw [← List.append_assoc, run_concat]
      exact place_step (simulates_run _).owned ih a

/-- However settings, the two halves of watching and what the readers see follow each other: no node
is ever given a second channel, each keeps the one it has, and every reader of the node holds it.
Every node is served what was set last, and so is every reader of it, none before the first setting;
a reader knows of a change if and only if something was set on its node after it came and after what
it saw last. Readers that hold their channels and readers that look their node up are told the
same. -/
theorem readers_served (steps : List CacheStep) :
    let t := run Channels.ops steps
    let s := run Cache.ops steps
    (t.cache.made.map MadeChannel.node).Nodup ∧
      (∀ node place, t.cache.current.find? node = some place → ∀ more,
        (run Channels.ops (steps ++ more)).cache.current.find? node = some place) ∧
      (∀ p ∈ t.readers, t.cache.current.find? p.1 = some p.2.place) ∧
      t.Served Channels.ops ∧ s.Served Cache.ops ∧ s.events = t.events := by
  intro t s
  have h : Simulates t s := simulates_run steps
  have hs : s.Served Cache.ops := (informed_run steps).served
  exact ⟨h.owned.nodup, fun node place hp more => place_run steps more hp, h.current,
    h.served hs, hs, h.events⟩

/-- Two clients find no channel. The first one makes it, and the second one takes it over together
with what was set meanwhile. -/
def halfway : List CacheStep :=
  [.look "gateway", .look "gateway", .enter 0, .set "gateway" ⟨"1", {}⟩, .enter 0]

/-- There is one channel, for ever; the first client has yet to see what was set, the second one has
seen it. -/
theorem halfway_served :
    let t := run Channels.ops halfway
    t.readers = [("gateway", ⟨0, 0⟩), ("gateway", ⟨0, 1⟩)] ∧
      (∀ more, (run Channels.ops (halfway ++ more)).cache.current.find? "gateway" = some 0) ∧
      Unseen 0 "gateway" t.events ∧ ¬ Unseen 1 "gateway" t.events := by
  obtain ⟨-, hplace, -, hserved, -⟩ := readers_served halfway
  refine ⟨by decide, hplace "gateway" 0 (by decide), ?_, ?_⟩
  · exact (hserved.changed 0 ("gateway", ⟨0, 0⟩) (by decide)).1 (by decide)
  · exact fun h => absurd ((hserved.changed 1 ("gateway", ⟨0, 1⟩) (by decide)).2 h) (by decide)

end CacheRun

end WafControl
