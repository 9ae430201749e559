/-!
# Chains of errors

An error may have a source, and that one too, and so on. A connection is refused if one of the
errors in such a chain says so. An input or output error that carries another error inside is a
special case: what comes after it in the chain is not the error it carries but the source of that
error, so the error it carries is never looked at.
-/

namespace WafControl

/-- One error of a chain; what it carries or comes from is the rest of the chain. -/
inductive ErrorLayer where
  /-- An error with a source. -/
  | wrap
  /-- An input or output error without a source. -/
  | io (refused : Bool)
  /-- An input or output error that carries the rest of the chain. -/
  | carrying (refused : Bool)
  deriving DecidableEq, Repr

namespace ErrorLayer

/-- The system's number of a refused connection. -/
def refusedErrno : Int := 111

def ofErrno (n : Int) : ErrorLayer := io (n == refusedErrno)

/-- Whether the error itself says that a connection was refused. -/
def isRefused : ErrorLayer → Bool
  | wrap => false
  | io refused => refused
  | carrying refused => refused

end ErrorLayer

namespace ErrorChain

/-- The source of the first error of a chain. -/
def source : List ErrorLayer → List ErrorLayer
  | [] => []
  | .wrap :: rest => rest
  | .io _ :: _ => []
  | .carrying _ :: rest => source rest

theorem length_source_lt (l : ErrorLayer) (rest : List ErrorLayer) :
    (source (l :: rest)).length < (l :: rest).length := by
  induction rest generalizing l with
  | nil => cases l <;> simp [source]
  | cons r rest ih =>
      cases l with
      | wrap => simp [source]
      | io => simp [source]
      | carrying =>
          have := ih r
          simp only [source, List.length_cons] at this ⊢
          omega

/-- Whether an error of the chain says that a connection was refused. -/
def isRefused : List ErrorLayer → Bool
  | [] => false
  | l :: rest => l.isRefused || isRefused (source (l :: rest))
termination_by chain => chain.length
decreasing_by exact length_source_lt l rest

end ErrorChain

end WafControl
