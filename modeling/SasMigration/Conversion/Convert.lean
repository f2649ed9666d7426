import SasMigration.Analysis.Dependencies
import SasMigration.Analysis.Sources
import SasMigration.Conversion.Completion
import SasMigration.Conversion.Connections
import SasMigration.Conversion.Requirements
import SasMigration.Program.Chunk
import SasMigration.Value.Program

namespace SasMigration

/-- The macros of a program, listed as they were found or under their names. -/
inductive MacroSource
  | listed (macros : List MacroDefinition)
  | named (macros : Fields)

structure ProgramParts where
  macros : MacroSource
  blocks : Value

structure ConversionResult where
  code : Text
  requirements : List Text
  functions : List (Text × Text)
  blocks : List Text
  sources : Fields
  dependencies : Fields

abbrev Converting := ExceptT Fault Conversing

namespace Conversion

def sqlProcedure : Pattern := .inOrder [.keyword "proc", .blanks1, .keyword "sql"]

def isSql (block : Text) : Bool := (sqlProcedure.find? block).isSome

def fenced (code : Text) : Text := "```sas\n" ++ code ++ "\n```"

def macroQuestion (name : Text) (body : Value) : Text :=
  "请将以下SAS宏转换为Python函数：\n\n" ++
    fenced ("%macro " ++ name ++ ";\n" ++ body.display ++ "\n%mend " ++ name ++ ";")

def blockQuestion (block : Text) : Text := "请将以下SAS代码转换为Python代码：\n\n" ++ fenced block

def macros (client : CompletionClient) : Fields → Conversing (List (Text × Text))
  | [] => return []
  | (name, body) :: rest => do
    let function ← client.instruct .macroBody (macroQuestion name body)
    let more ← macros client rest
    return (name, function) :: more

def blockInstruction (block : Text) : Instruction := if isSql block then .sqlBlock else .mainBlock

def block (client : CompletionClient) (v : Value) : Converting Text := do
  let code ← (v.searched : Except Fault _)
  client.instruct (blockInstruction code) (blockQuestion code)

def blocks (client : CompletionClient) : List Value → Converting (List Text)
  | [] => return []
  | v :: vs => do
    let first ← block client v
    let more ← blocks client vs
    return first :: more

/-- Blocks may come as anything that has items. -/
def blocksIn (client : CompletionClient) (v : Value) : Converting (List Text) := do
  let items ← (v.items : Except Fault _)
  blocks client items

/-- Functions are made from macros under their names; a bare list of macros has none. -/
def namedMacros : MacroSource → Except Fault Fields
  | .named macros => .ok macros
  | .listed _ => .error (.noOperation "list" "items")

def partsOf (code file : Text) : Except Fault ProgramParts := do
  let division ← Division.ofCode Chunk.defaultSize code file
  return { macros := .listed division.macros, blocks := .texts division.chunks }

def assemble (notes connections functions main : Text) : Text :=
  notes ++ "\n\n" ++ connections ++ "\n\n" ++ "# ===== Function Definitions =====\n" ++ functions ++
    "\n\n" ++ "# ===== Main Code =====\n" ++ main ++ "\n"

def run (models : AnalysisModels) (parts : Option ProgramParts) (code file : Text) :
    Converting ConversionResult := do
  let sources ← (SourceAnalysis.ofCode models.sources code : Except Fault _)
  let dependencies ← (DependencyAnalysis.ofCode models.dependencies code : Except Fault _)
  let divided ← (partsOf code file : Except Fault _)
  let parts := parts.getD divided
  let named ← (namedMacros parts.macros : Except Fault _)
  let functions ← macros .standard named
  let blocks ← blocksIn .standard parts.blocks
  let connections ← (Connection.ofAnalysis (.object sources) : Except Fault _)
  let notes ← (DependencyNotes.ofAnalysis (.object dependencies) : Except Fault _)
  let code :=
    assemble notes connections (Imports.mergeFunctions functions) (Imports.merge blocks)
  return { code, requirements := Requirements.ofCode code, functions, blocks, sources,
           dependencies }

/-- The model for sources is set up first, and only leaves a notice if that fails. -/
def setUp (models : AnalysisModels) : Converting Unit := do
  modify fun x ↦ { x with printed := x.printed ++ SourceAnalysis.notice models.sources }
  (models.dependencies.setUp : Except Fault _)

def ofCode (models : AnalysisModels) (parts : Option ProgramParts) (replies : List Reply)
    (code file : Text) : Except Fault ConversionResult × Exchange :=
  let converting : Converting ConversionResult := do
    setUp models
    run models parts code file
  converting.run (.start replies)

end Conversion

namespace ConversionResult

def toFields (r : ConversionResult) : Fields :=
  [("python_code", .text r.code), ("requirements", .texts r.requirements),
    ("functions", .object (r.functions.map fun f ↦ (f.1, .text f.2))),
    ("main_blocks", .texts r.blocks), ("data_source_analysis", .object r.sources),
    ("dependency_analysis", .object r.dependencies)]

end ConversionResult

end SasMigration
