import WafControl.Gateway.Build
import WafControl.Gateway.Cache
import WafControl.Gateway.Consistency

/-!
# Publishing snapshots

An applier builds, checks and publishes the snapshots of one proxy node. Resources that do not fit
together are refused, and the snapshot published before stays in place: the cache is returned as it
was. The version of a new snapshot is drawn by the caller.
-/

namespace WafControl

inductive ApplierState where
  | idle
  | building
  | validating
  | publishing
  deriving DecidableEq, Repr

/-- Publishes to one proxy node. -/
structure Applier where
  node : String
  config : GatewayConfig
  state : ApplierState := .idle
  deriving DecidableEq, Repr

namespace Applier

/-- Checks resources and publishes them under the version. -/
def publish (a : Applier) (version : String) (r : Resources) (c : Cache) :
    Except Inconsistency Snapshot × Applier × Cache :=
  let validating := { a with state := .validating }
  match r.fault? with
  | some fault => (.error fault, { validating with state := .idle }, c)
  | none =>
    let publishing := { validating with state := .publishing }
    let snapshot : Snapshot := ⟨version, r⟩
    (.ok snapshot, { publishing with state := .idle }, c.set a.node snapshot)

/-- Builds the resources of the protections and publishes them. -/
def apply (a : Applier) (version : String) (ps : List Protection) (c : Cache) :
    Except Inconsistency Snapshot × Applier × Cache :=
  let building := { a with state := .building }
  building.publish version (build a.config ps) c

end Applier

end WafControl
