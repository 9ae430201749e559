import WafControl.Data.Signal
import WafControl.Data.Table
import WafControl.Gateway.Resources

/-!
# The snapshot cache

The cache holds one channel per proxy node, a signal of its latest snapshot. A watcher remembers
how many settings of the channel it has seen, so that it knows whether it has missed one; setting
an equal snapshot counts as well.

Watching a node takes two steps, each under a lock of its own: looking for the node's channel, and,
where there is none, making one unless another client has made it in between. `watch` is the two
together.
-/

namespace WafControl

/-- One node's latest snapshot, none before the first. -/
abbrev Channel := Signal (Option Snapshot)

/-- A reader of one node's channel, with the count of the settings it has seen. -/
structure Watcher where
  node : String
  seen : Nat
  deriving DecidableEq, Repr

/-- The latest snapshot of every proxy node. -/
structure Cache where
  channels : Table String Channel := {}
  deriving DecidableEq, Repr

/-- The channel of a node that has no snapshot yet. -/
def Channel.unused : Channel := ⟨none, 0⟩

namespace Cache

/-- The node's channel; a node without one has an unused channel. -/
def channel (c : Cache) (node : String) : Channel := (c.channels.find? node).getD Channel.unused

def set (c : Cache) (node : String) (s : Snapshot) : Cache :=
  ⟨c.channels.insert node ((c.channel node).set (some s))⟩

def get (c : Cache) (node : String) : Option Snapshot := (c.channel node).latest

/-- A reader of the node's channel, if it has one. -/
def subscribe? (c : Cache) (node : String) : Option Watcher :=
  (c.channels.find? node).map fun ch => ⟨node, ch.sets⟩

/-- A reader of the node's channel, which is made if it is still missing. -/
def subscribeOrCreate (c : Cache) (node : String) : Watcher × Cache :=
  match c.subscribe? node with
  | some w => (w, c)
  | none => (⟨node, Channel.unused.sets⟩, ⟨c.channels.insert node Channel.unused⟩)

/-- A new reader of the node's snapshots. It has seen the current one. -/
def watch (c : Cache) (node : String) : Watcher × Cache :=
  match c.subscribe? node with
  | some w => (w, c)
  | none => c.subscribeOrCreate node

end Cache

namespace Watcher

/-- The snapshot that a reader reads. -/
def peek (w : Watcher) (c : Cache) : Option Snapshot := c.get w.node

/-- Whether a snapshot was set that the reader has not seen. -/
def changed (w : Watcher) (c : Cache) : Bool := (c.channel w.node).changedSince w.seen

/-- The reader once it has seen the current snapshot. -/
def see (w : Watcher) (c : Cache) : Watcher := { w with seen := (c.channel w.node).sets }

end Watcher

namespace Cache

@[simp] theorem channel_set_self (c : Cache) (node : String) (s : Snapshot) :
    (c.set node s).channel node = (c.channel node).set (some s) := by
  simp [channel, set]

theorem channel_set_of_ne (c : Cache) {node other : String} (h : other ≠ node) (s : Snapshot) :
    (c.set node s).channel other = c.channel other := by
  simp [channel, set, Table.find?_insert_of_ne _ h]

@[simp] theorem get_set_self (c : Cache) (node : String) (s : Snapshot) :
    (c.set node s).get node = some s := by
  simp [get, Signal.set]

/-- Watching changes no channel. -/
theorem channel_watch (c : Cache) (node other : String) :
    (c.watch node).2.channel other = c.channel other := by
  unfold watch subscribeOrCreate subscribe?
  cases h : c.channels.find? node with
  | some ch => rfl
  | none =>
      by_cases ho : other = node
      · subst ho
        simp [channel, h]
      · simp [channel, Table.find?_insert_of_ne _ ho]

end Cache

end WafControl
