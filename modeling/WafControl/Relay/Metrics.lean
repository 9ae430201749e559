import WafControl.Data.Table
import WafControl.Metrics.Exposition
import WafControl.Relay.Instance

/-!
# Relay metrics

What a relay controller counts: its reconciliations by what was wanted and how they came out, and
its probes by what they found.
-/

namespace WafControl

inductive RelayAction where
  | present
  | absent
  deriving DecidableEq, Repr

def RelayAction.label : RelayAction → String
  | present => "Present"
  | absent => "Absent"

def Intent.action : Intent → RelayAction
  | .present _ => .present
  | .absent => .absent

def ProbeState.label : ProbeState → String
  | active => "active"
  | idle => "idle"
  | absent => "absent"
  | unknown => "unknown"

structure RelayCounts where
  /-- By the action and whether it succeeded. -/
  reconciles : Table (RelayAction × Bool) Nat := {}
  probes : Table ProbeState Nat := {}
  deriving DecidableEq, Repr

namespace RelayCounts

def reconciled (m : RelayCounts) (action : RelayAction) (ok : Bool) : RelayCounts :=
  { m with reconciles := m.reconciles.modify (action, ok) 0 (· + 1) }

def probed (m : RelayCounts) (state : ProbeState) : RelayCounts :=
  { m with probes := m.probes.modify state 0 (· + 1) }

def resultLabel (ok : Bool) : String := if ok then "ok" else "error"

def families (m : RelayCounts) : List Metrics.Family :=
  [.counter "reconciles" "Total number of per-endpoint relay reconciliations, by outcome"
      (m.reconciles.entries.map fun e =>
        ([("action", e.1.1.label), ("result", resultLabel e.1.2)], e.2)),
    .counter "probes" "Total number of relay health probes, by observed state"
      (m.probes.entries.map fun e => ([("state", e.1.label)], e.2))]

def lines (m : RelayCounts) : List String := Metrics.exposition m.families

end RelayCounts

end WafControl
