import WafControl.Redirect.Listing

/-!
# The packet filter's program

The packet filter is driven by a program. Listed is with the arguments `--json list ruleset`; a
transaction is given to it as its input, with the arguments `-f -`. A program that cannot be run and
one that ends with a failure are errors.

`ScriptedProgram` is a program whose answers are given; it records its last run.
-/

namespace WafControl

inductive ExitStatus where
  | code (n : UInt8)
  | killed
  deriving DecidableEq, Repr

namespace ExitStatus

def isSuccess : ExitStatus → Bool
  | code n => n == 0
  | killed => false

def display : ExitStatus → String
  | code n => "exit status: " ++ toString n.toNat
  | killed => "signal: 9 (SIGKILL)"

/-- The status a shell ends with that is told to: none means success, and a number keeps its lowest
byte. -/
def ofScript (s : String) : ExitStatus :=
  if s = "kill" then killed else code ((s.toNat?.getD 0).toUInt8)

end ExitStatus

/-- A run of the program: its arguments, and its input if it was given any. -/
structure ProgramRun where
  args : String
  stdin : Option String
  deriving DecidableEq, Repr

/-- A program whose answers are given. -/
structure ScriptedProgram where
  missing : Bool := false
  ruleset : String := ""
  listExit : ExitStatus := .code 0
  listStderr : String := ""
  runExit : ExitStatus := .code 0
  runStderr : String := ""
  /-- The last run since the record was taken. -/
  lastRun : Option ProgramRun := none
  deriving DecidableEq, Repr

namespace ScriptedProgram

/-- What becomes of a run that ended so. -/
def checked (status : ExitStatus) (stderr : String) : Except NftError Unit :=
  if status.isSuccess then .ok () else .error (.failed status.display stderr)

/-- The error of a program that is not there. -/
def notFound : NftError := .exec "No such file or directory (os error 2)"

def list (p : ScriptedProgram) :
    Except NftError (Option (List (Option String))) × ScriptedProgram :=
  if p.missing then (.error notFound, p)
  else
    ((checked p.listExit p.listStderr).bind fun _ => Listing.relayComments? p.ruleset,
      { p with lastRun := some ⟨"--json list ruleset", none⟩ })

def run (tx : Transaction) (p : ScriptedProgram) : Except NftError Unit × ScriptedProgram :=
  if p.missing then (.error notFound, p)
  else (checked p.runExit p.runStderr, { p with lastRun := some ⟨"-f -", some tx.text⟩ })

def ops : NftOps ScriptedProgram where
  list := list
  run := run

end ScriptedProgram

end WafControl
