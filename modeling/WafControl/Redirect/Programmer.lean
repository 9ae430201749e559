import WafControl.Redirect.Ruleset

/-!
# Programming the redirect

The programmer decides from the listed ruleset alone whether something is to be done: it adds a
redirect unless a rule marked by a relay is there, and removes the relay's table only if one is.
Each operation runs at most one transaction.

The packet filter is a record of two operations over a state of any type. `ScriptedNft` is one that
follows the model of rulesets, fails on demand and records the transactions it was given.
-/

namespace WafControl

/-- How a use of the packet filter's program fails. -/
inductive NftError where
  /-- The program cannot be run. -/
  | exec (cause : String)
  /-- The program ended with a failure. -/
  | failed (status stderr : String)
  /-- The program's listing is not of the right form. -/
  | json
  deriving DecidableEq, Repr

namespace NftError

/-- The message; the text of an invalid listing depends on the reader and has none. -/
def message? : NftError → Option String
  | exec cause => some ("failed to run nft: " ++ cause)
  | failed status stderr => some ("nft failed (" ++ status ++ "): " ++ stderr)
  | json => none

end NftError

structure NftOps (σ : Type) where
  /-- The comments of the rules in the relay's chain, or none without that chain. -/
  list : σ → Except NftError (Option (List (Option String))) × σ
  /-- Carries out a transaction, all of it or nothing. -/
  run : Transaction → σ → Except NftError Unit × σ

inductive RedirectOp where
  | add (r : Redirect)
  /-- Removes whatever this or an earlier relay left in place. -/
  | delete
  deriving DecidableEq, Repr

namespace Programmer

variable {σ : Type}

/-- Whether a relay made one of the rules listed. -/
def carriesOwned : Option (List (Option String)) → Bool
  | none => false
  | some comments => comments.any fun c => c == some Redirect.ownedComment

/-- Whether the relay's chain carries a rule that a relay made. -/
def applied (ops : NftOps σ) (s : σ) : Except NftError Bool × σ :=
  let (listed, s) := ops.list s
  (listed.map carriesOwned, s)

/-- The transaction that an operation calls for. -/
def transaction (applied : Bool) : RedirectOp → Transaction
  | .add r => if applied then [] else r.addition
  | .delete => if applied then Redirect.removal else []

/-- Carries out an operation, unless there is nothing to do. -/
def program (ops : NftOps σ) (op : RedirectOp) (s : σ) : Except NftError Unit × σ :=
  match applied ops s with
  | (.error e, s) => (.error e, s)
  | (.ok applied, s) =>
    match transaction applied op with
    | [] => (.ok (), s)
    | c :: cs => ops.run (c :: cs) s

end Programmer

/-- A packet filter whose failures are given. -/
structure ScriptedNft where
  ruleset : Ruleset := {}
  listError : Option String := none
  runError : Option String := none
  /-- The transactions since the record was last taken, latest first. -/
  recorded : List Transaction := []
  deriving DecidableEq, Repr

/-- A change of a scripted packet filter; only the fields that are set change. -/
structure NftChange where
  chain : Option (Option (List (Option String))) := none
  listError : Option (Option String) := none
  runError : Option (Option String) := none
  deriving DecidableEq, Repr

namespace ScriptedNft

def change (n : ScriptedNft) (ch : NftChange) : ScriptedNft :=
  { n with
    ruleset := match ch.chain with
      | none => n.ruleset
      | some comments => n.ruleset.withComments comments
    listError := ch.listError.getD n.listError
    runError := ch.runError.getD n.runError }

/-- A failure of the program with the given text. -/
def failure (stderr : String) : NftError := .failed "exit status: 1" stderr

def list (n : ScriptedNft) : Except NftError (Option (List (Option String))) :=
  match n.listError with
  | some e => .error (failure e)
  | none => .ok n.ruleset.relayComments

def run (tx : Transaction) (n : ScriptedNft) : Except NftError Unit × ScriptedNft :=
  let n := { n with recorded := tx :: n.recorded }
  match n.runError with
  | some e => (.error (failure e), n)
  | none =>
    match n.ruleset.run? tx with
    | some ruleset => (.ok (), { n with ruleset })
    | none => (.error (failure "No such file or directory"), n)

def ops : NftOps ScriptedNft where
  list := fun n => (n.list, n)
  run := run

/-- Takes the record, in the order of the transactions. -/
def takeRecorded (n : ScriptedNft) : List Transaction × ScriptedNft :=
  (n.recorded.reverse, { n with recorded := [] })

end ScriptedNft

end WafControl
