/-!
# Failures with their context

A failure is a chain of texts: what failed, and behind it why. Its message is the whole chain.
-/

namespace WafControl

/-- Why an operation failed: the outermost text, and the causes behind it. -/
structure Failure where
  text : String
  causes : List String := []
  deriving DecidableEq, Repr

namespace Failure

/-- The failure seen from an operation around it. -/
def within (f : Failure) (text : String) : Failure := ⟨text, f.text :: f.causes⟩

/-- Texts joined by colons, outermost first. -/
def chain : String → List String → String
  | text, [] => text
  | text, cause :: causes => text ++ ": " ++ chain cause causes

def message (f : Failure) : String := chain f.text f.causes

theorem message_within (f : Failure) (text : String) :
    (f.within text).message = text ++ ": " ++ f.message := rfl

end Failure

end WafControl
