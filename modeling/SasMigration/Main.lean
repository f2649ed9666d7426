import SasMigration.CommandLine.Analyze
import SasMigration.CommandLine.Convert
import SasMigration.CommandLine.Run
import SasMigration.CommandLine.Submit

namespace SasMigration

namespace CommandLine

/-- Scripts and installations are not started from here. -/
def noProcess : Text := "processes cannot be started"

def setting : RunSetting :=
  { supply := .numbered
    interpreter := "python3"
    home := "."
    world :=
      { installed := [], output := [], exit := 0, spawnError := some noProcess, importErrors := [] }
    child :=
      { output := [], errors := [], spawnError := some noProcess, stopError := none,
        pollError := none }
    plan := { finishAfter := none, exit := 0, interruptAfter := some 1 } }

def program? (name : String) : Option (List Text → Command (Option Nat)) :=
  match name with
  | "analyze" => some (AnalyzeProgram.run "analyze")
  | "submit" => some (SubmitProgram.run "submit")
  | "convert" => some (ConvertProgram.run [] ⟨.absent, .absent⟩ none [] "convert")
  | "run" => some (RunProgram.run setting "run")
  | _ => none

def placeOf (path : String) : Place :=
  (Text.splitOn ['/'] path.toList).filter fun part ↦ !part.isEmpty && part != ['.']

def isDirectory (path : String) : IO Bool := do
  try (← IO.FS.realPath path).isDir catch _ => return false

def load (t : FileTree) (path : String) : IO FileTree := do
  let place := placeOf path
  if place.isEmpty then return t
  try
    let bytes ← IO.FS.readBinFile path
    return (t.putParents place).put place (.file bytes.toList)
  catch _ =>
    if ← isDirectory path then return (t.putParents place).put place .directory
    else return t

def store (place : Place) (bytes : List UInt8) : IO Unit := do
  let parent := String.ofList (Text.join ['/'] place.dropLast)
  if !parent.isEmpty then IO.FS.createDirAll parent
  IO.FS.writeBinFile (String.ofList (Text.join ['/'] place)) ⟨bytes.toArray⟩

def finish (before : FileTree) (e : CommandEnd) : IO UInt32 := do
  for (place, bytes) in e.console.files.files do
    if !before.files.contains (place, bytes) then store place bytes
  IO.print (String.ofList e.console.output)
  IO.eprint (String.ofList e.console.errors)
  for (_, line) in e.console.log do
    IO.eprintln (String.ofList line)
  match e.fault with
  | some fault =>
    IO.eprintln (String.ofList fault.message)
    return 1
  | none => return (e.exit.getD 0).toUInt32

def entered (reads : Bool) : IO String := do
  if reads then (← IO.getStdin).readToEnd else return ""

def start (program : List Text → Command (Option Nat)) (args : List String) (reads : Bool) :
    IO UInt32 := do
  let files ← args.foldlM load .empty
  let input ← entered reads
  finish files ((program (args.map String.toList)).run (.start files input.toList))

end CommandLine

end SasMigration

open SasMigration in
def main (args : List String) : IO UInt32 := do
  match args with
  | name :: rest =>
    match CommandLine.program? name with
    | some program =>
      let reads := name == "analyze" && AnalyzeProgram.readsInput (rest.map String.toList)
      CommandLine.start program rest reads
    | none =>
      IO.eprintln ("unknown program: " ++ name)
      return 2
  | [] =>
    IO.eprintln "usage: analyze | submit | convert | run"
    return 2
