import Mathlib.Data.List.Nodup
import WafControl.Proofs.InOrder
import WafControl.Proofs.Sessions

/-!
# The channels of the nodes

A reader of the snapshot cache names its node, so that it could not tell a channel from another one
put in its place. Here the channels are told apart: `Channels` keeps every channel that was ever
made, a reader holds the one it got, and what was set on one channel is not seen on another. What
either cache can do under one lock is a `CacheOps`. No operation gives a node a second channel
(`Channels.Owned`), and each does to the channel of its node what it does in the other cache.
-/

namespace WafControl

/-- What is done to a cache and by its readers, each under one lock. -/
structure CacheOps (γ ω : Type) where
  empty : γ
  set : γ → String → Snapshot → γ
  get : γ → String → Option Snapshot
  subscribe? : γ → String → Option ω
  subscribeOrCreate : γ → String → ω × γ
  peek : ω → γ → Option Snapshot
  changed : ω → γ → Bool
  see : ω → γ → ω

namespace Cache

def ops : CacheOps Cache Watcher where
  empty := {}
  set := set
  get := get
  subscribe? := subscribe?
  subscribeOrCreate := subscribeOrCreate
  peek := Watcher.peek
  changed := Watcher.changed
  see := Watcher.see

variable {c : Cache} {node : String}

theorem subscribe?_eq_some {w : Watcher} (h : c.subscribe? node = some w) :
    w = ⟨node, (c.channel node).sets⟩ := by
  obtain ⟨ch, hch, rfl⟩ := Option.map_eq_some_iff.1 h
  rw [channel, hch, Option.getD_some]

/-- The second look for a channel makes the first one redundant to whoever is alone. -/
theorem watch_eq_subscribeOrCreate (c : Cache) (node : String) :
    c.watch node = c.subscribeOrCreate node := by
  unfold watch
  cases h : c.subscribe? node with
  | none => rfl
  | some w => rw [subscribeOrCreate, h]

theorem find?_subscribeOrCreate_self (c : Cache) (node : String) :
    (c.subscribeOrCreate node).2.channels.find? node = some (c.channel node) := by
  unfold subscribeOrCreate subscribe? channel
  cases h : c.channels.find? node with
  | none => simp
  | some ch => simpa using h

theorem find?_subscribeOrCreate_of_ne {other : String} (hne : other ≠ node) (c : Cache) :
    (c.subscribeOrCreate node).2.channels.find? other = c.channels.find? other := by
  unfold subscribeOrCreate
  cases c.subscribe? node with
  | none => exact Table.find?_insert_of_ne _ hne _
  | some w => rfl

end Cache

/-- A channel and the node that it was made for. -/
structure MadeChannel where
  node : String
  signal : Channel
  deriving DecidableEq, Repr

/-- Every channel that was ever made, and the place of the one that each node has. -/
structure Channels where
  made : List MadeChannel := []
  current : Table String Nat := {}
  deriving DecidableEq, Repr

/-- A reader of the channel at a place. -/
structure Receiver where
  place : Nat
  seen : Nat
  deriving DecidableEq, Repr

namespace Channels

def signal (h : Channels) (place : Nat) : Channel :=
  ((h.made[place]?).map MadeChannel.signal).getD Channel.unused

def channel? (h : Channels) (node : String) : Option Channel :=
  (h.current.find? node).map h.signal

/-- The node has a new channel. The one that it had, if any, keeps its readers. -/
def add (h : Channels) (node : String) (ch : Channel) : Channels :=
  ⟨h.made ++ [⟨node, ch⟩], h.current.insert node h.made.length⟩

def setAt (h : Channels) (place : Nat) (x : Snapshot) : Channels :=
  { h with made := h.made.modify place fun m => { m with signal := m.signal.set (some x) } }

def set (h : Channels) (node : String) (x : Snapshot) : Channels :=
  match h.current.find? node with
  | some place => h.setAt place x
  | none => h.add node (Channel.unused.set (some x))

def subscribe? (h : Channels) (node : String) : Option Receiver :=
  (h.current.find? node).map fun place => ⟨place, (h.signal place).sets⟩

def subscribeOrCreate (h : Channels) (node : String) : Receiver × Channels :=
  match h.subscribe? node with
  | some r => (r, h)
  | none => (⟨h.made.length, Channel.unused.sets⟩, h.add node Channel.unused)

def ops : CacheOps Channels Receiver where
  empty := {}
  set := set
  get h node := (h.channel? node).bind Signal.latest
  subscribe? := subscribe?
  subscribeOrCreate := subscribeOrCreate
  peek r h := (h.signal r.place).latest
  changed r h := (h.signal r.place).changedSince r.seen
  see r h := { r with seen := (h.signal r.place).sets }

/-- The node at a place has the channel at that place, and there only. -/
def Owned (h : Channels) : Prop :=
  ∀ node place, h.current.find? node = some place ↔
    (h.made.map MadeChannel.node)[place]? = some node

variable {h : Channels} {node other : String} {place : Nat} {ch : Channel} {x : Snapshot}

theorem owned_empty : Owned {} := by
  intro node place
  simp [Table.find?, Table.lookup]

theorem Owned.nodup (ho : h.Owned) : (h.made.map MadeChannel.node).Nodup := by
  refine List.nodup_iff_injective_getElem.2 fun i j hij => Fin.ext ?_
  have hi := (ho _ i).2 (List.getElem?_eq_getElem i.2)
  have hj := (ho _ j).2 (List.getElem?_eq_getElem j.2)
  exact Option.some.inj (hi.symm.trans ((congrArg h.current.find? hij).trans hj))

theorem Owned.lt_length (ho : h.Owned) (hp : h.current.find? node = some place) :
    place < h.made.length := by
  have := (List.getElem?_eq_some_iff.1 ((ho node place).1 hp)).1
  rwa [List.length_map] at this

theorem Owned.node_inj (ho : h.Owned) (hp : h.current.find? node = some place)
    (hq : h.current.find? other = some place) : node = other :=
  Option.some.inj (((ho node place).1 hp).symm.trans ((ho other place).1 hq))

theorem find?_add_of_ne (hne : other ≠ node) :
    (h.add node ch).current.find? other = h.current.find? other :=
  Table.find?_insert_of_ne _ hne _

theorem Owned.add (ho : h.Owned) (hn : h.current.find? node = none) (ch : Channel) :
    (h.add node ch).Owned := by
  intro other place
  rw [show (h.add node ch).made.map MadeChannel.node = h.made.map MadeChannel.node ++ [node] from
    List.map_append, InOrder.getElem?_concat_iff, List.length_map, ← ho]
  by_cases he : other = node
  · subst he
    simp [Channels.add, hn, eq_comm]
  · simp [find?_add_of_ne he, Ne.symm he]

theorem signal_add_of_lt (hp : place < h.made.length) :
    (h.add node ch).signal place = h.signal place := by
  simp [signal, add, List.getElem?_append_left hp]

theorem signal_add_self : (h.add node ch).signal h.made.length = ch := by
  simp [signal, add]

theorem channel?_add_self : (h.add node ch).channel? node = some ch := by
  rw [channel?, show (h.add node ch).current.find? node = some h.made.length from
    Table.find?_insert_self _ _ _, Option.map_some, signal_add_self]

theorem Owned.channel?_add_of_ne (ho : h.Owned) (hne : other ≠ node) (ch : Channel) :
    (h.add node ch).channel? other = h.channel? other := by
  rw [channel?, channel?, find?_add_of_ne hne]
  cases hq : h.current.find? other with
  | none => rfl
  | some place => rw [Option.map_some, Option.map_some, signal_add_of_lt (ho.lt_length hq)]

theorem Owned.setAt (ho : h.Owned) (place : Nat) (x : Snapshot) : (h.setAt place x).Owned := by
  have hmap : (h.setAt place x).made.map MadeChannel.node = h.made.map MadeChannel.node := by
    refine List.ext_getElem? fun i => ?_
    simp only [Channels.setAt, List.getElem?_map, List.getElem?_modify]
    cases h.made[i]? <;> split <;> rfl
  intro node i
  rw [hmap]
  exact ho node i

theorem signal_setAt_self (hp : place < h.made.length) (x : Snapshot) :
    (h.setAt place x).signal place = (h.signal place).set (some x) := by
  simp [signal, setAt, hp]

theorem signal_setAt_of_ne {other : Nat} (hne : other ≠ place) (x : Snapshot) :
    (h.setAt place x).signal other = h.signal other := by
  simp [signal, setAt, hne.symm]

theorem set_of_place (hp : h.current.find? node = some place) (x : Snapshot) :
    h.set node x = h.setAt place x := by
  rw [set, hp]

theorem set_of_none (hp : h.current.find? node = none) (x : Snapshot) :
    h.set node x = h.add node (Channel.unused.set (some x)) := by
  rw [set, hp]

theorem Owned.set (ho : h.Owned) (node : String) (x : Snapshot) : (h.set node x).Owned := by
  cases hp : h.current.find? node with
  | some place => exact set_of_place hp x ▸ ho.setAt place x
  | none => exact set_of_none hp x ▸ ho.add hp _

theorem Owned.channel?_set_self (ho : h.Owned) (node : String) (x : Snapshot) :
    (h.set node x).channel? node =
      some (((h.channel? node).getD Channel.unused).set (some x)) := by
  cases hp : h.current.find? node with
  | some place =>
      have hset := signal_setAt_self (ho.lt_length hp) x
      rw [set_of_place hp, channel?, channel?, hp, Option.map_some, Option.getD_some, ← hset]
      exact congrArg (Option.map _) hp
  | none => rw [set_of_none hp, channel?_add_self, channel?, hp, Option.map_none, Option.getD_none]

/-- A setting is seen on the channel of its node and on no other. -/
theorem Owned.channel?_set_of_ne (ho : h.Owned) (hne : other ≠ node) (x : Snapshot) :
    (h.set node x).channel? other = h.channel? other := by
  cases hp : h.current.find? node with
  | some place =>
      rw [set_of_place hp]
      refine Option.map_congr fun q hq => signal_setAt_of_ne ?_ x
      rintro rfl
      exact hne (ho.node_inj hq hp)
  | none => rw [set_of_none hp, ho.channel?_add_of_ne hne]

/-- A channel is the one of its node for ever. -/
theorem find?_set (hq : h.current.find? other = some place) (node : String) (x : Snapshot) :
    (h.set node x).current.find? other = some place := by
  cases hp : h.current.find? node with
  | some p => rwa [set_of_place hp]
  | none =>
      have hne : other ≠ node := by
        rintro rfl
        rw [hp] at hq
        cases hq
      rw [set_of_none hp, find?_add_of_ne hne, hq]

/-- What a client finds that makes the channel of a node if it is missing. -/
structure Subscribed (h : Channels) (node : String) (r : Receiver) (h' : Channels) : Prop where
  owned : h'.Owned
  place : h'.current.find? node = some r.place
  seen : r.seen = ((h.channel? node).getD Channel.unused).sets
  self : h'.channel? node = some ((h.channel? node).getD Channel.unused)
  others : ∀ other ≠ node, h'.channel? other = h.channel? other
  kept : ∀ other place, h.current.find? other = some place →
    h'.current.find? other = some place

theorem Owned.subscribed (ho : h.Owned) (node : String) :
    h.Subscribed node (h.subscribeOrCreate node).1 (h.subscribeOrCreate node).2 := by
  cases hp : h.current.find? node with
  | some place =>
      rw [show h.subscribeOrCreate node = (⟨place, (h.signal place).sets⟩, h) by
        rw [subscribeOrCreate, subscribe?, hp, Option.map_some]]
      have hch : h.channel? node = some (h.signal place) := by rw [channel?, hp, Option.map_some]
      refine ⟨ho, hp, ?_, ?_, fun _ _ => rfl, fun _ _ hq => hq⟩ <;> rw [hch, Option.getD_some]
  | none =>
      rw [show h.subscribeOrCreate node =
          (⟨h.made.length, Channel.unused.sets⟩, h.add node Channel.unused) by
        rw [subscribeOrCreate, subscribe?, hp, Option.map_none]]
      have hch : h.channel? node = none := by rw [channel?, hp, Option.map_none]
      refine ⟨ho.add hp _, Table.find?_insert_self _ _ _, ?_, ?_,
        fun other hne => ho.channel?_add_of_ne hne _, fun other place hq => ?_⟩
      · rw [hch, Option.getD_none]
      · rw [hch, Option.getD_none, channel?_add_self]
      · have hne : other ≠ node := fun heq => by
          rw [heq, hp] at hq
          cases hq
        rwa [find?_add_of_ne hne]

theorem Owned.subscribed_of_some (ho : h.Owned) {r : Receiver} (hr : h.subscribe? node = some r) :
    h.Subscribed node r h := by
  have := ho.subscribed node
  rwa [subscribeOrCreate, hr] at this

end Channels

end WafControl
