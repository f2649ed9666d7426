import SasMigration.CommandLine.Console
import SasMigration.Database.Analysis

namespace SasMigration

namespace AnalyzeProgram

def spec : ProgramSpec :=
  { main :=
      { description := "Analyze database usage in SAS code"
        options :=
          [.helpOption,
            .ofText ["--output", "-o"] "output" .null
              "Output JSON file path (output to stdout if not provided)",
            .ofFlag ["--database-only", "-d"] "database_only" "Only analyze database usage",
            .ofFlag ["--pretty", "-p"] "pretty" "Pretty print JSON output"]
        operand := .optional "file" "SAS code file path (read from stdin if not provided)" }
    commands := [] }

def invitation : Text :=
  "Please enter SAS code, press Ctrl+D (Unix) or Ctrl+Z (Windows) when done:"

def code (path : Text) : Command Text := do
  if path.isEmpty then
    Command.print invitation
    return (← get).input
  else
    match ← Command.textAt path with
    | .ok t => return t
    | .error fault =>
      Command.printError ("Error: Cannot read file " ++ path ++ ", " ++ fault.message)
      Command.stop 1

def readsInput (args : List Text) : Bool :=
  match spec.read [] args with
  | .ok values => (values.textAt "file").isEmpty
  | .error _ => false

/-- The text of a report: all of it, or the databases alone. One that is to be pretty is read back
and written with letters beyond ASCII as they are. -/
def report (databaseOnly pretty : Bool) (code : Text) : Except Fault Text := do
  let r ← SourceReport.ofCode code
  let result := if databaseOnly then r.databasesJson else r.json
  if pretty then return (← Value.load result).json false else return result

def deliver (path result : Text) : Command (Option Nat) := do
  if path.isEmpty then
    Command.print result
    return some 0
  else
    match ← Command.onFiles (FileAction.write path (.ok result)) with
    | .ok _ =>
      Command.print ("Analysis results saved to: " ++ path)
      return some 0
    | .error fault =>
      Command.printError ("Error: Cannot write to file " ++ path ++ ", " ++ fault.message)
      return some 1

/-- Only a report that is printed is made pretty. -/
def run (name : Text) (args : List Text) : Command (Option Nat) := do
  let values ← Command.arguments spec name args
  let output := values.textAt "output"
  let code ← code (values.textAt "file")
  match report (values.flagAt "database_only") (values.flagAt "pretty" && output.isEmpty) code with
  | .error fault =>
    Command.printError ("Error: An error occurred during analysis, " ++ fault.message)
    return some 1
  | .ok result => deliver output result

end AnalyzeProgram

end SasMigration
