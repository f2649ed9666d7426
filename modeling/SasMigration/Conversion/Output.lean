import SasMigration.Conversion.Notes
import SasMigration.Files.Tree
import SasMigration.Value.Pieces

namespace SasMigration

namespace Value

def kindToWrite : Value → Text
  | .null => "None"
  | v => v.kindName

def asWritten : Value → Except Fault Text
  | .text t => .ok t
  | v => .error (.notWritable v.kindToWrite)

def joinable (index : Nat) : List Value → Except Fault (List Text)
  | [] => .ok []
  | .text t :: vs => (joinable (index + 1) vs).map (t :: ·)
  | v :: _ => .error (.notJoinable index v.kindName)

def asLines (v : Value) : Except Fault Text :=
  match v.items with
  | .error _ => .error .notJoined
  | .ok items => (joinable 0 items).map Text.unlines

end Value

namespace ConversionOutput

def field (result : Fields) (key : Text) : Except Fault Value :=
  match result.get? key with
  | some v => .ok v
  | none => .error (.missingKey key)

def functionsOf (result : Fields) : Except Fault Fields := do
  match ← field result "functions" with
  | .object fields => return fields
  | v => throw (.noOperation v.kindName "items")

def saveFunctions (directory : Text) : Fields → FileAction Unit
  | [] => return ()
  | (name, code) :: rest => do
    FileAction.write (Path.join directory (name ++ ".py")) code.asWritten
    saveFunctions directory rest

def saveAnalysis (directory : Text) (result : Fields) (key : Text) : FileAction Unit :=
  FileAction.writePieces (Path.join directory (key ++ ".json"))
    ((field result key).map fun v ↦ v.pieces true)

/-- Saves a result; what it lacks shows when its file has been started. -/
def save (result : Fields) (directory name : Text) : FileAction Unit := do
  FileAction.ensureDirectories directory
  FileAction.write (Path.join directory (name ++ ".py"))
    ((field result "python_code").bind Value.asWritten)
  FileAction.write (Path.join directory "requirements.txt")
    ((field result "requirements").bind Value.asLines)
  let functionDirectory := Path.join directory "functions"
  FileAction.ensureDirectories functionDirectory
  let functions ← (functionsOf result : Except Fault _)
  saveFunctions functionDirectory functions
  let analysisDirectory := Path.join directory "analysis"
  FileAction.ensureDirectories analysisDirectory
  saveAnalysis analysisDirectory result "data_source_analysis"
  saveAnalysis analysisDirectory result "dependency_analysis"

end ConversionOutput

end SasMigration
