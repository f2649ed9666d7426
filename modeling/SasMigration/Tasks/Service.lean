import SasMigration.Analysis.Report
import SasMigration.Tasks.Request

namespace SasMigration

/-- An answer of a service that refuses a request. -/
structure HttpFault where
  status : Nat
  detail : Text
deriving DecidableEq, Repr

/-- What a worker recorded: a result, or the text of an error. -/
inductive TaskOutcome
  | result (v : Value)
  | error (reason : Text)

structure TaskRecord where
  state : Text
  outcome : TaskOutcome
  parts : List (Text × Value)

structure TaskStatus where
  id : Text
  status : Text
  result : Value
  error : Option Text

structure TaskService where
  models : AnalysisModels
  files : FileTree
  modified : Value
  submitted : Nat
  records : List (Text × TaskRecord)

namespace TaskOutcome

def message : TaskOutcome → Text
  | .result v => v.display
  | .error reason => reason

def value : TaskOutcome → Value
  | .result v => v
  | .error _ => .null

end TaskOutcome

namespace TaskService

def success : Text := "SUCCESS"

def failure : Text := "FAILURE"

def revoked : Text := "REVOKED"

def pending : Text := "PENDING"

def start (models : AnalysisModels) (files : FileTree) (modified : Value) : TaskService :=
  { models, files, modified, submitted := 0, records := [] }

def get? (s : TaskService) (id : Text) : Option TaskRecord :=
  (s.records.find? fun r ↦ r.1 == id).map (·.2)

def record (s : TaskService) (id : Text) (r : TaskRecord) : TaskService :=
  { s with records := (id, r) :: s.records.filter fun old ↦ old.1 != id }

def idOf (number : Nat) : Text := "task-" ++ Text.ofNat number

def partOf (id path : Text) : Text := id ++ "/" ++ Path.baseName path

def submit (s : TaskService) (brokerFault : Option Text) (result : Text → Value)
    (parts : List (Text × Value)) : TaskService × Except HttpFault Text :=
  match brokerFault with
  | some reason => (s, .error ⟨500, reason⟩)
  | none =>
    let id := idOf s.submitted
    let s := { s with submitted := s.submitted + 1 }
    (s.record id ⟨success, .result (result id), parts⟩, .ok id)

def analyzeCode (s : TaskService) (brokerFault : Option Text) (r : CodeAnalysisRequest) :
    TaskService × Except HttpFault Text :=
  s.submit brokerFault (fun _ ↦ .object (Report.ofCode s.models (.int r.size) (.text r.code))) []

def fileReport (s : TaskService) (size : Int) (path : Text) : Value :=
  .object (Report.ofPath s.files s.modified s.models (.int size) (.text path))

def analyzeFile (s : TaskService) (brokerFault : Option Text) (r : FileAnalysisRequest) :
    TaskService × Except HttpFault Text :=
  if s.files.isPresent r.path then
    s.submit brokerFault (fun _ ↦ s.fileReport r.size r.path) []
  else (s, .error ⟨404, "文件不存在: " ++ r.path⟩)

def analyzeDirectory (s : TaskService) (brokerFault : Option Text)
    (r : DirectoryAnalysisRequest) : TaskService × Except HttpFault Text :=
  if s.files.isDirectory r.path then
    let found := Report.filesIn s.files (.text r.path) (.text r.wild)
    let parts := match found with
      | .ok paths => paths.map fun p ↦ (Path.baseName p, s.fileReport r.size p)
      | .error _ => []
    s.submit brokerFault
      (fun id ↦ .object (Report.ofDirectory (partOf id) (.text r.path) found)) parts
  else (s, .error ⟨404, "目录不存在: " ++ r.path⟩)

/-- The parts of a task get records of their own when its result has been given out. -/
def reveal (s : TaskService) (id : Text) (r : TaskRecord) : TaskService :=
  r.parts.foldl (fun s p ↦ s.record (partOf id p.1) ⟨success, .result p.2, []⟩) s

def isReady (state : Text) : Bool := state == success || state == failure || state == revoked

def statusOf (id : Text) (r : TaskRecord) : TaskStatus :=
  if r.state = success then { id, status := success, result := r.outcome.value, error := none }
  else if isReady r.state then
    { id, status := failure, result := .null, error := some r.outcome.message }
  else { id, status := r.state, result := .null, error := none }

/-- The status of a task; one that is not known is pending. -/
def status (s : TaskService) (backendFault : Option Text) (id : Text) :
    TaskService × Except HttpFault TaskStatus :=
  match backendFault with
  | some reason => (s, .error ⟨500, reason⟩)
  | none =>
    match s.get? id with
    | none => (s, .ok { id, status := pending, result := .null, error := none })
    | some r => (if r.state = success then s.reveal id r else s, .ok (statusOf id r))

end TaskService

end SasMigration
