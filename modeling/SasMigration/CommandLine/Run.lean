import SasMigration.CommandLine.Console

namespace SasMigration

/-- What happens outside while a script is followed: at which wait it ends and with which code, and
at which wait the user interrupts. -/
structure FollowPlan where
  finishAfter : Option Nat
  exit : Int
  interruptAfter : Option Nat
deriving DecidableEq, Repr

/-- How the following of a script comes out: the script is finished, something failed, or there is
still something to wait for. -/
inductive FollowEnd
  | finished
  | failed (fault : Fault)
  | waiting

/-- What surrounds the program. -/
structure RunSetting where
  supply : RunnerSupply
  interpreter : Text
  home : Text
  world : PackageWorld
  child : ChildProcess
  plan : FollowPlan

namespace RunProgram

def environmentOption : OptionSpec := .ofText ["--venv"] "venv" .null "Virtual environment path"

def runCommand : CommandSpec :=
  { description := []
    options := [.helpOption, environmentOption]
    operand := .required "file" "Python script file path" }

def serveCommand : CommandSpec :=
  { description := []
    options :=
      [.helpOption, .ofText ["--host"] "host" (.text ServerStart.anyHost) "Host address",
        .ofInteger ["--port"] "port" ServerStart.runnerPort "Port number",
        .ofFlag ["--debug"] "debug" "Enable debug mode", environmentOption,
        .ofText ["--static"] "static" .null "Static files directory path"]
    operand := .nothing }

def spec : ProgramSpec :=
  { main :=
      { description := "Python Code Runner"
        options := [.helpOption]
        operand := .command "command" "Commands"
          [("run", "Run Python script"), ("api", "Start API service")] }
    commands := [("run", runCommand), ("api", serveCommand)] }

def wait (plan : FollowPlan) (number : Nat) (id : Text) (r : ScriptRunner) :
    ScriptRunner × Option Fault :=
  let r :=
    if plan.finishAfter = some number then
      match r.finish id plan.exit [.output, .error] with
      | .ok r => r
      | .error _ => r
    else r
  (r, if plan.interruptAfter = some number then some .interrupted else none)

/-- Follows a script until its status says that it is finished. A script that was forgotten when its
last line was read has no status any more, so only an interruption ends the waiting. -/
def follow (plan : FollowPlan) (id : Text) :
    Nat → ScriptRunner → Nat → ScriptRunner × Nat × FollowEnd
  | 0, r, waits => (r, waits, .waiting)
  | turns + 1, r, waits =>
    let (r, _) := r.logs id
    match r.status id with
    | .error fault => (r, waits, .failed fault)
    | .ok (.finished ..) => (r, waits, .finished)
    | .ok _ =>
      match wait plan (waits + 1) id r with
      | (r, some fault) => (r, waits + 1, .failed fault)
      | (r, none) => follow plan id turns r (waits + 1)

def turns (plan : FollowPlan) : Nat :=
  max (plan.finishAfter.getD 0) (plan.interruptAfter.getD 0) + 1

def keep (r : ScriptRunner) (waits : Nat) : Command Unit :=
  modify fun c ↦ { c with files := r.files, scripts := r.ids, waits }

def runScript (s : RunSetting) (path directory : Text) : Command (Option Nat) := do
  let files ← Command.files
  if !files.isPresent path then
    Command.log .error ("File does not exist: " ++ path)
    Command.stop 1
  else
    let code ← Command.orFail (files.textAt path)
    let env : PythonEnvironment := { directory, windows := false, interpreter := s.interpreter }
    let runner ← Command.onFiles (ScriptRunner.start s.supply env false)
    let runner ← Command.orFail runner
    let (runner, id, trace) := runner.run s.world s.child false (.text code)
    keep runner 0
    modify fun c ↦ { c with log := c.log ++ trace.log.map fun line ↦ (LogLevel.info, line) }
    let id ← Command.orFail id
    let (runner, waits, found) := follow s.plan id (turns s.plan) runner 0
    keep runner waits
    match found with
    | .finished => return none
    | .failed fault => Command.fail fault
    | .waiting => Command.fail .interrupted

def serve (home host : Text) (port : Int) (debug : Bool) (directory : Text) : Command Unit :=
  modify fun c ↦
    { c with
      mounts := c.mounts ++ [StaticMount.pages home directory]
      served := c.served ++ [ServerStart.runner host port debug] }

def run (s : RunSetting) (name : Text) (args : List Text) : Command (Option Nat) := do
  let values ← Command.arguments spec name args
  match String.ofList (values.textAt "command") with
  | "run" => runScript s (values.textAt "file") (values.textAt "venv")
  | "api" =>
    let host := values.textAt "host"
    let port := values.integerAt "port"
    Command.log .info
      ("Starting FastAPI service, address: " ++ host ++ ":" ++ Text.ofInt port)
    serve s.home host port (values.flagAt "debug") (values.textAt "static")
    return none
  | _ =>
    Command.log .error "No command specified, please use 'run' or 'api' command"
    Command.stop 1

end RunProgram

end SasMigration
