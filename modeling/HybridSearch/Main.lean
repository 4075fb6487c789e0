import HybridSearch.CommandLine.Run

/-!
# The program

Reads the words of the command line and the variables that settings are taken from, and runs the
task. The program carries no network client, so that every server is out of its reach.
-/

open HybridSearch

/-- The variables that are set. -/
def readVariables : IO (List (String × String)) := do
  let names := CommandLine.settingSwitches.filterMap Prod.snd
  let found ← names.mapM fun name => do return (← IO.getEnv name).map fun value => (name, value)
  return found.filterMap id

def outOfReach : CommandLine.Surroundings Script where
  folder := ⟨.folder [], fun _ => none⟩
  connect url := .error ("no connection can be made to " ++ url)
  transport _ := .error "error sending request"
  newId := toString
  elapsed := 0

def main (words : List String) : IO UInt32 := do
  let (outcome, _) := CommandLine.run outOfReach words (← readVariables)
  IO.print outcome.output
  match outcome.error with
  | some message => IO.eprintln ("Error: " ++ message)
  | none => pure ()
  return outcome.code.toUInt32
