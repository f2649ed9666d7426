import SasMigration.CommandLine.Usage
import SasMigration.Runner.Server
import SasMigration.Tasks.Request

namespace SasMigration

inductive LogLevel
  | info
  | error
deriving DecidableEq, Repr

inductive TaskRequest
  | code (r : CodeAnalysisRequest)
  | file (r : FileAnalysisRequest)
  | directory (r : DirectoryAnalysisRequest)

structure Console where
  files : FileTree
  input : Text
  output : Text
  errors : Text
  log : List (LogLevel × Text)
  submitted : List TaskRequest
  mounts : List StaticMount
  served : List ServerStart
  scripts : List Text
  waits : Nat

/-- An end of a program before its last step. -/
inductive Stop
  | exit (code : Nat)
  | fault (f : Fault)

abbrev Command := ExceptT Stop (StateM Console)

/-- How a program ended: with an exit code if it has one, or with a fault. -/
structure CommandEnd where
  exit : Option Nat
  fault : Option Fault
  console : Console

namespace Console

def start (files : FileTree) (input : Text) : Console :=
  { files, input, output := [], errors := [], log := [], submitted := [], mounts := [],
    served := [], scripts := [], waits := 0 }

end Console

namespace Command

def write (t : Text) : Command Unit := modify fun c ↦ { c with output := c.output ++ t }

def print (line : Text) : Command Unit :=
  modify fun c ↦ { c with output := c.output ++ line ++ "\n" }

def printError (line : Text) : Command Unit :=
  modify fun c ↦ { c with errors := c.errors ++ line ++ "\n" }

def log (level : LogLevel) (line : Text) : Command Unit :=
  modify fun c ↦ { c with log := c.log ++ [(level, line)] }

def stop {α : Type} (code : Nat) : Command α := throw (.exit code)

def fail {α : Type} (fault : Fault) : Command α := throw (.fault fault)

def files : Command FileTree := do return (← get).files

def textAt (path : Text) : Command (Except Fault Text) := do return (← files).textAt path

/-- Does something to the files; what was done before a fault stays done. -/
def onFiles {α : Type} (action : FileAction α) : Command (Except Fault α) := do
  let (done, files) := action.run.run (← files)
  modify fun c ↦ { c with files }
  return done

def orFail {α : Type} : Except Fault α → Command α
  | .ok a => return a
  | .error fault => fail fault

def arguments (p : ProgramSpec) (name : Text) (args : List Text) : Command Fields := do
  match p.read name args with
  | .ok values => return values
  | .error halt =>
    modify fun c ↦ { c with output := c.output ++ halt.output, errors := c.errors ++ halt.errors }
    stop halt.exit

def run (command : Command (Option Nat)) (console : Console) : CommandEnd :=
  match ExceptT.run command |>.run console with
  | (.ok exit, console) => ⟨exit, none, console⟩
  | (.error (.exit code), console) => ⟨some code, none, console⟩
  | (.error (.fault fault), console) => ⟨none, some fault, console⟩

end Command

namespace Fields

def textAt (values : Fields) (field : Text) : Text :=
  match values.get? field with
  | some (.text t) => t
  | _ => []

def flagAt (values : Fields) (field : Text) : Bool :=
  ((values.get? field).map Value.isTrue).getD false

def integerAt (values : Fields) (field : Text) : Int :=
  match values.get? field with
  | some (.int n) => n
  | _ => 0

end Fields

end SasMigration
