import WafControl.Relay.Instance

/-!
# Entering network namespaces

Work in a network namespace begins with opening the file that stands for it and entering it. This
module says how that fails for files that stand for no namespace, and what becomes of the
operations that wanted to work there.
-/

namespace WafControl

inductive PathTarget where
  | missing
  /-- A component that is not the last is no directory. -/
  | notDirectory
  | nameTooLong
  /-- The path holds the character that ends names. -/
  | nulCharacter
  /-- Something that is no network namespace. -/
  | other
  deriving DecidableEq, Repr

inductive NetnsError where
  | opening (path cause : String)
  | entering (path cause : String)
  deriving DecidableEq, Repr

namespace NetnsError

def message : NetnsError → String
  | opening path cause => "failed to open network namespace " ++ path ++ ": " ++ cause
  | entering path cause => "failed to enter network namespace " ++ path ++ ": " ++ cause

end NetnsError

namespace PathTarget

/-- The greatest length of a path, in bytes. -/
def longestPath : Nat := 4095

/-- The greatest length of a component of a path, in bytes. -/
def longestComponent : Nat := 255

/-- The components of a path, without empty ones. A slash at the end stands for a single dot. -/
def components (path : String) : List String :=
  ((path.splitOn "/").filter fun c => c != "") ++ if path.endsWith "/" then ["."] else []

/-- Follows the components of a path among plain files and directories, both given by their
components. A single dot stays where it is, which only a directory allows. -/
def follow (files directories : List (List String)) : List String → List String → PathTarget
  | here, [] => if files.contains here || directories.contains here then other else missing
  | here, c :: cs =>
    if files.contains here then notDirectory
    else if c = "." then follow files directories here cs
    else if c = ".." then follow files directories here.dropLast cs
    else if longestComponent < c.utf8ByteSize then nameTooLong
    else if files.contains (here ++ [c]) || directories.contains (here ++ [c]) then
      follow files directories (here ++ [c]) cs
    else missing

/-- What a path leads to where only the given files and directories exist, beside the root. A path
that does not start at the root starts at the working directory. The empty path leads nowhere. -/
def ofPath (files directories : List String) (working path : String) : PathTarget :=
  let places := directories.map components
  let start := if path.startsWith "/" then [] else components working
  if path.toList.contains (Char.ofNat 0) then nulCharacter
  else if longestPath < path.utf8ByteSize then nameTooLong
  else if path = "" then missing
  else follow (files.map components) ([] :: places) start (components path)

/-- Why a namespace cannot be entered there. -/
def netnsError (target : PathTarget) (path : String) : NetnsError :=
  match target with
  | missing => .opening path "No such file or directory (os error 2)"
  | notDirectory => .opening path "Not a directory (os error 20)"
  | nameTooLong => .opening path "File name too long (os error 36)"
  | nulCharacter => .opening path "file name contained an unexpected NUL byte"
  | other => .entering path "EINVAL: Invalid argument"

end PathTarget

/-- What is wanted in a namespace. -/
inductive NetnsWork where
  /-- To run something, or to start a process, which both need the namespace first. -/
  | run
  /-- To open a connection from there. -/
  | dial
  /-- To probe the relay there. -/
  | probe
  /-- To ask the relay there to start or to stop. -/
  | control
  deriving DecidableEq, Repr

/-- How work in a namespace ends that cannot be entered. -/
inductive NetnsOutcome where
  | failed (e : NetnsError)
  /-- As an error of the connection. -/
  | connection (message : String)
  | probed (state : ProbeState)
  /-- As a failure of the call. -/
  | call (message : String)
  deriving DecidableEq, Repr

/-- The outcome of work in a namespace that cannot be entered. A probe learns nothing then. -/
def NetnsWork.outcome (e : NetnsError) : NetnsWork → NetnsOutcome
  | run => .failed e
  | dial => .connection e.message
  | probe => .probed .unknown
  | control => .call "failed to connect to relay"

end WafControl
