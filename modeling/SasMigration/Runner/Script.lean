import SasMigration.Conversion.Output
import SasMigration.Runner.Packages
import SasMigration.Runner.Stream

namespace SasMigration

/-- How a child process behaves. -/
structure ChildProcess where
  output : List StreamRead
  errors : List StreamRead
  spawnError : Option Text
  stopError : Option Text
  pollError : Option Text
deriving DecidableEq, Repr

structure RunningScript where
  process : Nat
  child : ChildProcess
  exit : Option Int
  queue : List Text
  outputOpen : Bool
  errorsOpen : Bool
  started : Value

inductive Signal
  | toGroup (group number : Nat)
  | terminate (process : Nat)
deriving DecidableEq, Repr

inductive ScriptStatus
  | notFound
  | running (process : Nat) (started runTime : Value)
  | finished (code : Int) (started ended runTime : Value)

/-- What a runner takes from its surroundings: a directory for scripts, their ids, the processes
that are started with their groups, and the time. No id comes twice, and each can be the name of a
file. -/
structure RunnerSupply where
  directory : Text
  idOf : Nat → Text
  processOf : Nat → Nat
  groupOf : Nat → Nat
  now : Value
  idOf_injective : ∀ m n, idOf m = idOf n → m = n
  slash_notMem : ∀ n, '/' ∉ idOf n
  null_notMem : ∀ n, Char.ofNat 0 ∉ idOf n

structure ScriptRunner where
  supply : RunnerSupply
  environment : PythonEnvironment
  windows : Bool
  files : FileTree
  scripts : List (Text × RunningScript)
  nextScript : Nat
  nextProcess : Nat
  now : Value

/-- What a step announces and starts. -/
structure RunTrace where
  log : List Text
  commands : List (List Text)
  pip : List Text
deriving DecidableEq, Repr

namespace RunnerSupply

def numberedId (n : Nat) : Text := "id-" ++ Text.ofNat n

theorem numberedId_injective (m n : Nat) (h : numberedId m = numberedId n) : m = n := by
  have hdigits : Nat.toDigits 10 m = Nat.toDigits 10 n := List.append_cancel_left h
  rw [← Nat.ofDigitChars_ten_toDigits (n := m), ← Nat.ofDigitChars_ten_toDigits (n := n), hdigits]

theorem notMem_numberedId {c : Char} (hc : c ∉ "id-".toList) (hdigit : c.isDigit = false)
    (n : Nat) : c ∉ numberedId n := by
  rw [numberedId, List.mem_append, not_or]
  refine ⟨hc, fun h ↦ ?_⟩
  have hmem := Nat.isDigit_of_mem_toDigits (by omega) (by omega) h
  rw [hdigit] at hmem
  cases hmem

def numbered : RunnerSupply where
  directory := "scripts"
  idOf := numberedId
  processOf n := 4000 + n
  groupOf process := process + 10000
  now := .int 1000
  idOf_injective := numberedId_injective
  slash_notMem := notMem_numberedId (by decide) (by decide)
  null_notMem := notMem_numberedId (by decide) (by decide)

end RunnerSupply

namespace Value

def asBinary : Value → Binary
  | .int n => .ofInt n
  | .number x => x
  | _ => .ofInt 0

def plus : Value → Value → Value
  | .int m, .int n => .int (m + n)
  | v, w => .number (v.asBinary.add w.asBinary)

def minus : Value → Value → Value
  | .int m, .int n => .int (m - n)
  | v, w => .number (v.asBinary.add w.asBinary.neg)

end Value

namespace RunTrace

def none : RunTrace := ⟨[], [], []⟩

def add (r s : RunTrace) : RunTrace :=
  ⟨r.log ++ s.log, r.commands ++ s.commands, r.pip ++ s.pip⟩

end RunTrace

namespace RunningScript

def poll (s : RunningScript) : Poll :=
  match s.child.pollError with
  | some reason => .failing reason
  | none =>
    match s.exit with
    | some code => .ended code
    | none => .running

/-- The reader of a stream hands on all that is left in it and ends. -/
def readStream (s : RunningScript) (kind : StreamKind) : RunningScript :=
  match kind with
  | .output =>
    if s.outputOpen then
      { s with
        queue := s.queue ++ (kind.read s.child.output [s.poll]).lines
        outputOpen := false }
    else s
  | .error =>
    if s.errorsOpen then
      { s with
        queue := s.queue ++ (kind.read s.child.errors [s.poll]).lines
        errorsOpen := false }
    else s

def finish (s : RunningScript) (code : Int) (kinds : List StreamKind) : RunningScript :=
  kinds.foldl readStream { s with exit := some code }

end RunningScript

namespace ScriptRunner

def fresh (supply : RunnerSupply) (environment : PythonEnvironment) (windows : Bool)
    (files : FileTree) : ScriptRunner :=
  { supply, environment, windows, files, scripts := [], nextScript := 0, nextProcess := 0,
    now := supply.now }

/-- A runner begins by making its directory. -/
def start (supply : RunnerSupply) (environment : PythonEnvironment) (windows : Bool) :
    FileAction ScriptRunner := do
  FileAction.ensureDirectories supply.directory
  return fresh supply environment windows (← get)

def find? (r : ScriptRunner) (id : Text) : Option RunningScript :=
  (r.scripts.find? fun s ↦ s.1 == id).map (·.2)

def put (r : ScriptRunner) (id : Text) (s : RunningScript) : ScriptRunner :=
  { r with scripts := r.scripts.map fun old ↦ if old.1 = id then (id, s) else old }

def ids (r : ScriptRunner) : List Text := (r.scripts.map (·.1)).mergeSort Text.le

def pathOf (r : ScriptRunner) (id : Text) : Text := Path.join r.supply.directory (id ++ ".py")

def nextId (r : ScriptRunner) : Text := r.supply.idOf r.nextScript

def save (r : ScriptRunner) (code : Value) : ScriptRunner × Except Fault Text :=
  let id := r.nextId
  let (done, files) := (FileAction.write (r.pathOf id) code.asWritten).run.run r.files
  ({ r with files, nextScript := r.nextScript + 1 }, done.map fun _ ↦ id)

def launch (r : ScriptRunner) (id : Text) (child : ChildProcess) : ScriptRunner × RunTrace :=
  let python := r.environment.python
  let path := r.pathOf id
  let opening : List Text :=
    ["Using Python executable: " ++ python, "Starting process: " ++ python ++ " " ++ path]
  match child.spawnError with
  | some reason => (r, ⟨opening ++ ["Error running script: " ++ reason], [], []⟩)
  | none =>
    let process := r.supply.processOf r.nextProcess
    let script : RunningScript :=
      { process, child, exit := none, queue := [], outputOpen := true, errorsOpen := true,
        started := r.now }
    let closing : List Text :=
      ["Script started running, process ID: " ++ Text.ofNat process,
        "Starting output reader threads", "Output reader threads started"]
    ({ r with scripts := r.scripts ++ [(id, script)], nextProcess := r.nextProcess + 1 },
      ⟨opening ++ closing, [[python, path]], []⟩)

def prepare (r : ScriptRunner) (world : PackageWorld) (skip : Bool) (code : Text) :
    Except Fault Bool × RunTrace :=
  if skip then (.ok true, ⟨["Skipping dependency installation"], [], []⟩)
  else
    let done := Packages.prepare r.environment world code
    let refusal : List Text := match done.succeeded with
      | .ok false => ["Failed to prepare script environment, cannot run script"]
      | _ => []
    (done.succeeded, ⟨done.log ++ refusal, [], done.commands⟩)

def run (r : ScriptRunner) (world : PackageWorld) (child : ChildProcess) (skip : Bool)
    (code : Value) : ScriptRunner × Except Fault Text × RunTrace :=
  match r.save code with
  | (r, .error fault) => (r, .error fault, .none)
  | (r, .ok id) =>
    let saved : List Text := ["Script ID: " ++ id, "Script saved to: " ++ r.pathOf id]
    let (ready, prepared) := r.prepare world skip code.display
    let trace := RunTrace.add ⟨saved, [], []⟩ prepared
    match ready with
    | .error fault => (r, .error fault, trace)
    | .ok false => (r, .ok id, trace)
    | .ok true =>
      let (r, launched) := r.launch id child
      (r, .ok id, trace.add launched)

/-- Forgets a script and removes its file. What cannot be removed stays. -/
def cleanUp (r : ScriptRunner) (id : Text) : ScriptRunner :=
  match r.find? id with
  | none => r
  | some _ =>
    let scripts := r.scripts.filter fun s ↦ s.1 != id
    let (_, files) := (FileAction.remove (r.pathOf id)).run.run r.files
    { r with scripts, files }

def gone (id : Text) : Text := "Script " ++ id ++ " does not exist or has ended"

def mostLines : Nat := 100

def openText (b : Bool) : Text := if b then "True" else "False"

def ending (s : RunningScript) (code : Int) : List Text :=
  ["DEBUG: Process has ended with return code: " ++ Text.ofInt code,
    "Script has ended, return code: " ++ Text.ofInt code,
    "DEBUG: stdout thread alive: " ++ openText s.outputOpen ++ ", stderr thread alive: " ++
      openText s.errorsOpen]

/-- The lines that wait for a script. When fewer than the greatest number wait, the script is asked
whether it has ended, and if so is forgotten. `ScriptSession.exists_asksTo_logs` shows that the loop
over the queue, one attempt after another, comes to this when nothing happens in between. -/
def logs (r : ScriptRunner) (id : Text) : ScriptRunner × List Text :=
  match r.find? id with
  | none => (r, [gone id])
  | some s =>
    let opening : Text := "DEBUG: Queue size: " ++ Text.ofNat s.queue.length
    let lines := opening :: s.queue.take mostLines
    let rest := r.put id { s with queue := s.queue.drop mostLines }
    if s.queue.length < mostLines then
      match s.poll with
      | .running => (rest, lines)
      | .failing reason => (rest, lines ++ ["Error getting logs: " ++ reason])
      | .ended code => (rest.cleanUp id, lines ++ ending s code)
    else (rest, lines)

def status (r : ScriptRunner) (id : Text) : Except Fault ScriptStatus :=
  match r.find? id with
  | none => .ok .notFound
  | some s =>
    match s.poll with
    | .failing reason => .error (.raised reason)
    | .running => .ok (.running s.process s.started (r.now.minus s.started))
    | .ended code => .ok (.finished code s.started r.now (r.now.minus s.started))

def terminationNumber : Nat := 15

def signalOf (r : ScriptRunner) (s : RunningScript) : Signal :=
  if r.windows then .terminate s.process
  else .toGroup (r.supply.groupOf s.process) terminationNumber

/-- Stops a script; one that does not stop is kept. -/
def stop (r : ScriptRunner) (id : Text) : ScriptRunner × Bool × List Signal :=
  match r.find? id with
  | none => (r, false, [])
  | some s =>
    let signals := [r.signalOf s]
    match s.child.stopError with
    | some _ => (r, false, signals)
    | none => (r.cleanUp id, true, signals)

def finish (r : ScriptRunner) (id : Text) (code : Int) (kinds : List StreamKind) :
    Except Fault ScriptRunner :=
  match r.find? id with
  | none => .error (.missingKey id)
  | some s => .ok (r.put id (s.finish code kinds))

def tick (r : ScriptRunner) (seconds : Value) : ScriptRunner := { r with now := r.now.plus seconds }

end ScriptRunner

namespace ScriptStatus

def toFields (idName id : Text) : ScriptStatus → Fields
  | .notFound =>
    [(idName, .text id), ("status", .text "not_found"), ("message", .text (ScriptRunner.gone id))]
  | .running process started runTime =>
    [(idName, .text id), ("status", .text "running"), ("pid", .ofNat process),
      ("start_time", started), ("run_time", runTime)]
  | .finished code started ended runTime =>
    [(idName, .text id), ("status", .text "finished"), ("return_code", .int code),
      ("start_time", started), ("end_time", ended), ("run_time", runTime)]

end ScriptStatus

end SasMigration
