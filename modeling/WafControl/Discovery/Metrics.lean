import WafControl.Data.Table
import WafControl.Discovery.Protocol
import WafControl.Metrics.Exposition

/-!
# Discovery metrics

What a discovery server counts: its open streams, how long the others lasted, the responses and the
rejections by type, and the snapshots that were published or refused.
-/

namespace WafControl.Discovery

structure Counts where
  openStreams : Nat := 0
  /-- How long each ended stream lasted, in milliseconds. -/
  lifetimes : List Nat := []
  responses : Table ResourceType Nat := {}
  rejections : Table ResourceType Nat := {}
  published : Nat := 0
  refused : Nat := 0
  deriving DecidableEq, Repr

namespace Counts

def respond (m : Counts) (t : ResourceType) : Counts :=
  { m with responses := m.responses.modify t 0 (· + 1) }

def reject (m : Counts) (t : ResourceType) : Counts :=
  { m with rejections := m.rejections.modify t 0 (· + 1) }

def openStream (m : Counts) : Counts := { m with openStreams := m.openStreams + 1 }

/-- A stream ended that lasted so long. -/
def endStream (m : Counts) (lifetime : Nat) : Counts :=
  { m with openStreams := m.openStreams - 1, lifetimes := lifetime :: m.lifetimes }

/-- The bounds of the lifetimes: a proxy keeps its stream until the connection reaches its age. -/
def lifetimeBounds : List Metrics.Bound :=
  [⟨"1.0", 1000⟩, ⟨"60.0", 60000⟩, ⟨"300.0", 300000⟩, ⟨"1800.0", 1800000⟩]

def byType (counts : Table ResourceType Nat) : List (List (String × String) × Nat) :=
  counts.entries.map fun e => ([("resource_type", e.1.label)], e.2)

/-- The series of a count under a result, which appears once it was counted. -/
def byResult (result : String) (n : Nat) : List (List (String × String) × Nat) :=
  if n = 0 then [] else [([("result", result)], n)]

def families (m : Counts) : List Metrics.Family :=
  [.gauge "streams" "Number of open discovery streams" m.openStreams,
    .histogram "stream_duration" "seconds" "Histogram of discovery stream lifetimes" lifetimeBounds
      m.lifetimes,
    .counter "responses" "Total number of discovery responses sent to proxies"
      (byType m.responses),
    .counter "nacks" "Total number of discovery responses rejected by proxies"
      (byType m.rejections),
    .counter "snapshots" "Total number of snapshots built, by result"
      (byResult "published" m.published ++ byResult "rejected" m.refused)]

def lines (m : Counts) : List String := Metrics.exposition m.families

end Counts

end WafControl.Discovery
