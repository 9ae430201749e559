import WafControl.Settings.Settings

/-!
# The controller's command line

Checks the command line of a controller together with the environment. Settings that are accepted
are written out as a full command line, one word a line; all others end the program with a message
and a failure.
-/

open WafControl

/-- Runs the check on the words after the program's name. -/
def main (args : List String) : IO UInt32 := do
  let env : Environment :=
    { nodeName := ← IO.getEnv "NODE_NAME", apiAddr := ← IO.getEnv "WAFIE_API_ADDR" }
  match Settings.ofCommandLine args env with
  | .error fault =>
    IO.eprintln ("error: " ++ fault.message)
    return 2
  | .ok settings =>
    match settings.refusal? with
    | some refusal =>
      IO.eprintln ("Error: " ++ refusal.message)
      return 1
    | none =>
      settings.words.forM IO.println
      return 0
