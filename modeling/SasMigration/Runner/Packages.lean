import SasMigration.Fault
import SasMigration.Files.Path
import SasMigration.Pattern.Matching
import SasMigration.Text.Blank

namespace SasMigration

/-- An environment in a directory of its own, or that of an interpreter. -/
structure PythonEnvironment where
  directory : Text
  windows : Bool
  interpreter : Text
deriving DecidableEq, Repr

/-- How an attempt to install packages goes. The import of a package that is there may fail, for a
reason of its own. -/
structure PackageWorld where
  installed : List Text
  output : List Text
  exit : Int
  spawnError : Option Text
  importErrors : List (Text × Text)
deriving DecidableEq, Repr

structure Installation where
  succeeded : Except Fault Bool
  log : List Text
  commands : List Text

namespace PackageWorld

def importError? (world : PackageWorld) (package : Text) : Option Text :=
  (world.importErrors.find? fun e ↦ e.1 == package).map (·.2)

end PackageWorld

namespace PythonEnvironment

def program (env : PythonEnvironment) (name : Text) : Text :=
  if env.windows then Path.joinAll env.directory ["Scripts", name ++ ".exe"]
  else Path.joinAll env.directory ["bin", name]

def python (env : PythonEnvironment) : Text :=
  if env.directory.isEmpty then env.interpreter else env.program "python"

def pip (env : PythonEnvironment) : Text :=
  if env.directory.isEmpty then env.python ++ " -m pip" else env.program "pip"

end PythonEnvironment

namespace Packages

def name : Pattern :=
  .span .longest 1 none
    (.ofItems false .distinguished
      [.range 'a'.toNat 'z'.toNat, .range 'A'.toNat 'Z'.toNat, .range '0'.toNat '9'.toNat,
        .char '_'])

/-- An import of packages by a list; of those after the first only the last is recorded. -/
def importLine : Pattern :=
  .inOrder [.literal "import", .blanks1, .group 1 name,
    .repeated .longest 0 none (.inOrder [.blanks, .literal ",", .blanks, .group 2 name])]

def fromLine : Pattern :=
  .inOrder [.literal "from", .blanks1, .group 1 name,
    .repeated .longest 0 none (.both (.literal ".") name), .blanks1, .literal "import"]

def recorded (p : Pattern) (number : Nat) (line : Text) : List Text :=
  match p.matchStart? line with
  | some m => (m.group number).toList
  | none => []

def inLine (line : Text) : List Text :=
  recorded importLine 1 line ++ recorded importLine 2 line ++ recorded fromLine 1 line

def standard : List Text := List.map String.toList
  ["os", "sys", "re", "math", "datetime", "time", "json", "csv", "random", "collections",
    "itertools", "functools", "typing", "pathlib", "io", "argparse", "logging", "unittest",
    "tempfile", "shutil", "glob", "pickle", "hashlib", "base64", "uuid", "copy", "string",
    "textwrap", "calendar", "contextlib", "subprocess", "threading", "multiprocessing", "queue",
    "socket", "email", "urllib", "http", "html", "xml", "webbrowser", "tkinter", "asyncio",
    "concurrent", "zipfile", "tarfile", "gzip", "bz2", "lzma", "zlib", "struct", "array", "enum",
    "statistics", "traceback", "pdb", "profile", "timeit", "trace", "warnings", "weakref",
    "platform", "gc", "inspect", "ast", "symtable", "token", "keyword", "tokenize", "tabnanny",
    "pyclbr", "py_compile", "compileall", "dis", "pickletools"]

def ofCode (code : Text) : List Text :=
  let found := (Text.lines code).flatMap fun line ↦ inLine (Text.strip line)
  Text.distinctSorted (found.filter fun p ↦ !standard.contains p)

def announce (world : PackageWorld) (package : Text) : Text :=
  "Package " ++ package ++
    if world.installed.contains package then " is already installed".toList
    else " is not installed, will attempt to install"

/-- Imports packages one after another, up to one that fails. -/
def tryImports (world : PackageWorld) : List Text → List Text × Option Text
  | [] => ([], none)
  | package :: packages =>
    match world.importError? package with
    | some reason => ([], some reason)
    | none =>
      let (log, failed) := tryImports world packages
      (announce world package :: log, failed)

def missing (world : PackageWorld) (packages : List Text) : List Text :=
  Text.firstOccurrences (packages.filter fun p ↦ !world.installed.contains p)

def failure (exit : Int) : Text :=
  "Dependencies installation failed, return code: " ++ Text.ofInt exit

def outcome (world : PackageWorld) : Bool × List Text :=
  match world.spawnError with
  | some reason => (false, ["Error installing dependencies: " ++ reason])
  | none =>
    let output := world.output.map Text.strip
    if world.exit = 0 then (true, output ++ ["Dependencies installed successfully".toList])
    else (false, output ++ [failure world.exit])

def install (env : PythonEnvironment) (world : PackageWorld) (packages : List Text) :
    Installation :=
  if packages.isEmpty then ⟨.ok true, ["No dependencies detected to install"], []⟩
  else
    match tryImports world packages with
    | (announced, some reason) => ⟨.error (.raised reason), announced, []⟩
    | (announced, none) =>
      match missing world packages with
      | [] => ⟨.ok true, announced ++ ["All dependencies are already installed".toList], []⟩
      | needed =>
        let command := env.pip ++ " install " ++ Text.join [' '] needed
        let (succeeded, log) := outcome world
        let started : List Text :=
          ["Installing dependencies: " ++ Text.join ", " needed, "Running command: " ++ command]
        ⟨.ok succeeded, announced ++ started ++ log, [command]⟩

def prepare (env : PythonEnvironment) (world : PackageWorld) (code : Text) : Installation :=
  let packages := ofCode code
  let named : Text := if packages.isEmpty then "none" else Text.join ", " packages
  let done := install env world packages
  { done with log := ("Detected dependencies: " ++ named) :: done.log }

def heard (listening : Bool) (log : List Text) : List Text := if listening then log else []

end Packages

end SasMigration
