import SasMigration.Analysis.Dependencies
import SasMigration.Analysis.Sources
import SasMigration.Files.Glob
import SasMigration.Program.Chunk
import SasMigration.Program.Complexity
import SasMigration.Value.Program

namespace SasMigration

namespace MacroDefinition

def toValue (m : MacroDefinition) : Value :=
  .object [("name", .text m.name), ("code", .text m.code), ("placeholder", .text m.placeholder),
    ("index", .ofNat m.index)]

end MacroDefinition

namespace Division

def toValue (d : Division) : Value :=
  .object [("macros", .list (d.macros.map MacroDefinition.toValue)),
    ("main_body_chunks", .texts d.chunks)]

end Division

namespace Complexity

def toValue (c : Complexity) : Value :=
  .object [("total_lines", .ofNat c.totalLines), ("code_lines", .ofNat c.codeLines),
    ("comment_lines", .ofNat c.commentLines), ("macro_count", .ofNat c.macros),
    ("proc_count", .ofNat c.procedures), ("data_step_count", .ofNat c.dataSteps),
    ("if_count", .ofNat c.conditions), ("do_loop_count", .ofNat c.loops),
    ("cyclomatic_complexity", .ofNat c.cyclomatic)]

end Complexity

namespace Report

def ofText (models : AnalysisModels) (size : Value) (code : Text) : Except Fault Fields := do
  let division ← Division.ofCode size code []
  let dependencies ← DependencyAnalysis.ofCode models.dependencies code
  let sources ← SourceAnalysis.ofCode models.sources code
  return [("chunking", division.toValue), ("complexity", (Complexity.ofCode code).toValue),
    ("dependencies", .object dependencies), ("data_sources", .object sources)]

def failure (fault : Fault) : Fields := [("error", .text fault.message)]

def orFailure : Except Fault Fields → Fields
  | .ok fields => fields
  | .error fault => failure fault

def ofCode (models : AnalysisModels) (size code : Value) : Fields :=
  orFailure do
    let program ← code.searched
    ofText models size program

def fileInfo (path : Text) (bytes : List UInt8) (modified : Value) : Value :=
  .object [("path", .text path), ("name", .text (Path.baseName path)),
    ("size", .ofNat bytes.length), ("last_modified", modified)]

def ofFile (t : FileTree) (modified : Value) (models : AnalysisModels) (size : Value)
    (path : Text) : Except Fault Fields := do
  let code ← t.textAt path
  let bytes ← t.bytesAt path
  return (ofCode models size (.text code)).put "file_info" (fileInfo path bytes modified)

/-- A number stands for an open file, and there is none. -/
def descriptorFault (n : Int) : Fault :=
  if n < 0 then .negativeDescriptor
  else if n < 0x80000000 then .badDescriptor
  else .notPath "int"

def ofPath (t : FileTree) (modified : Value) (models : AnalysisModels) (size path : Value) :
    Fields :=
  let report := match path with
    | .text p => ofFile t modified models size p
    | .int n => .error (descriptorFault n)
    | v => .error (.notPath v.kindName)
  match report with
  | .ok fields => fields
  | .error fault => (failure fault).put "file_path" path

def filesIn (t : FileTree) (directory wild : Value) : Except Fault (List Text) :=
  match directory, wild with
  | .text d, .text w => Glob.expand t (Path.join d w)
  | .text _, v => .error (.notPathPart v.kindName)
  | v, _ => .error (.notPath v.kindName)

def defaultWild : Text := "*.sas"

/-- The report on a directory; `taskOf` is the task that reports on a file. -/
def ofDirectory (taskOf : Text → Text) (directory : Value) (found : Except Fault (List Text)) :
    Fields :=
  match found with
  | .ok paths =>
    [("directory", directory), ("file_count", .ofNat paths.length),
      ("task_ids", .object (Fields.putAll [] (paths.map fun p ↦
        (Path.baseName p, .text (taskOf p)))))]
  | .error fault => (failure fault).put "directory_path" directory

end Report

end SasMigration
