import SasMigration.Runner.Examples
import SasMigration.Runner.Script
import SasMigration.Tasks.Request
import SasMigration.Tasks.Service

namespace SasMigration

structure RunService where
  runner : ScriptRunner
  logs : List (Text × List Text)

/-- When and how a script ends while its log is streamed. -/
structure StreamPlan where
  finishAfter : Option Nat
  exit : Int
deriving DecidableEq, Repr

structure StreamedLog where
  events : List Text
  waits : Nat
deriving DecidableEq, Repr

namespace RunService

def start (runner : ScriptRunner) : RunService := { runner, logs := [] }

def logOf (s : RunService) (id : Text) : List Text :=
  ((s.logs.find? fun l ↦ l.1 == id).map (·.2)).getD []

def addLog (s : RunService) (id : Text) (lines : List Text) : RunService :=
  if s.logs.any fun l ↦ l.1 == id then
    { s with logs := s.logs.map fun l ↦ if l.1 = id then (id, l.2 ++ lines) else l }
  else { s with logs := s.logs ++ [(id, lines)] }

def run (s : RunService) (world : PackageWorld) (child : ChildProcess) (r : RunRequest) :
    RunService × Except HttpFault Text × RunTrace :=
  match s.runner.run world child r.skipPackages (.text r.code) with
  | (runner, .ok id, trace) => (RunService.addLog { s with runner } id [], .ok id, trace)
  | (runner, .error fault, trace) =>
    ({ s with runner }, .error ⟨500, "Error running script: " ++ fault.message⟩, trace)

/-- Moves the lines that wait for a script to its log, and gives out the whole log. -/
def fetch (s : RunService) (id : Text) : RunService × List Text :=
  let (runner, lines) := s.runner.logs id
  let s := RunService.addLog { s with runner } id lines
  (s, s.logOf id)

def status (s : RunService) (id : Text) : Except HttpFault ScriptStatus :=
  match s.runner.status id with
  | .ok status => .ok status
  | .error fault => .error ⟨500, "Error getting status: " ++ fault.message⟩

def stop (s : RunService) (id : Text) : RunService × Except HttpFault Unit × List Signal :=
  match s.runner.stop id with
  | (runner, true, signals) => ({ s with runner }, .ok (), signals)
  | (runner, false, signals) =>
    ({ s with runner },
      .error ⟨404, "Script " ++ id ++ " does not exist or has already ended"⟩, signals)

def example? (id : Text) : Except HttpFault ExampleScript :=
  match ExampleScript.find? id with
  | some e => .ok e
  | none => .error ⟨404, "Example " ++ id ++ " not found"⟩

def pages : Text := "static"

def page : Text := Path.join pages "index.html"

def event (fields : Fields) : Text := "data: " ++ Value.jsonLine (.object fields) ++ "\n\n"

def logEvent (line : Text) : Text := event [("log", .text line)]

def lastEvent (line : Text) : Text := event [("log", .text line), ("finished", .bool true)]

def endEvent (code : Int) : Text := lastEvent ("Script has ended, return code: " ++ Text.ofInt code)

def atWait (s : RunService) (id : Text) (plan : StreamPlan) (number : Nat) :
    Except Fault RunService :=
  if plan.finishAfter = some number then
    (s.runner.finish id plan.exit [.output, .error]).map fun runner ↦ { s with runner }
  else .ok s

/-- Streams the log from the line `sent` on; `waits` have been made before. -/
def streamFrom (id : Text) (plan : StreamPlan) :
    Nat → RunService → Nat → Nat → RunService × StreamedLog
  | 0, s, _, waits => (s, ⟨[], waits⟩)
  | turns + 1, s, sent, waits =>
    let (s, all) := s.fetch id
    let events := (all.drop sent).map logEvent
    let last (line : Text) (waits : Nat) : RunService × StreamedLog :=
      (s, ⟨events ++ [line], waits⟩)
    match s.runner.status id with
    | .error fault => last (lastEvent ("Error in stream logs: " ++ fault.message)) waits
    | .ok .notFound => last (endEvent 0) waits
    | .ok (.finished code ..) => last (endEvent code) waits
    | .ok (.running ..) =>
      match s.atWait id plan (waits + 1) with
      | .error fault => last (lastEvent ("Error in stream logs: " ++ fault.message)) (waits + 1)
      | .ok s =>
        let (s, rest) := streamFrom id plan turns s all.length (waits + 1)
        (s, { rest with events := events ++ rest.events })

def stream (s : RunService) (id : Text) (plan : StreamPlan) : RunService × StreamedLog :=
  streamFrom id plan (plan.finishAfter.getD 0 + 2) (s.addLog id []) 0 0

end RunService

end SasMigration
