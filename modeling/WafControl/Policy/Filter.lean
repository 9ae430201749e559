import WafControl.Policy.Protection

/-!
# Protection filters

A filter narrows a listing of protections. Each field that is set has to agree with the
protection; a field that is not set accepts all. `Filter.select` is the listing a store owes its
clients: the accepted protections in their order.
-/

namespace WafControl

/-- Which protections a listing is to hold. -/
structure Filter where
  mode : Option Mode := none
  modSecMode : Option Mode := none
  includeApplications : Bool := false
  upstreamHost : Option String := none
  deriving DecidableEq, Repr

namespace Filter

/-- The protections that are on, with the ModSecurity engine on. -/
def enabled : Filter :=
  { mode := some .on, modSecMode := some .on, includeApplications := true }

/-- Every protection. -/
def all : Filter := { includeApplications := true }

/-- The protections whose first ingress leads to the given host. -/
def upstream (host : String) : Filter :=
  { includeApplications := true, upstreamHost := some host }

/-- Whether a field of a filter, if set, agrees with the value. -/
def agrees {α : Type} [DecidableEq α] (field : Option α) (value : α) : Bool :=
  match field with
  | none => true
  | some wanted => decide (wanted = value)

def accepts (f : Filter) (p : Protection) : Bool :=
  agrees f.mode p.mode && agrees f.modSecMode p.modSecMode &&
    agrees f.upstreamHost p.upstreamHost

def select (f : Filter) (ps : List Protection) : List Protection := ps.filter f.accepts

theorem accepts_upstream (host : String) (p : Protection) :
    (upstream host).accepts p = decide (host = p.upstreamHost) := by
  simp [accepts, upstream, agrees]

theorem accepts_enabled (p : Protection) :
    enabled.accepts p = (decide (p.mode = .on) && decide (p.modSecMode = .on)) := by
  simp [accepts, enabled, agrees, eq_comm]

@[simp] theorem select_all (ps : List Protection) : all.select ps = ps := by
  simp [select, accepts, all, agrees]

end Filter

end WafControl
