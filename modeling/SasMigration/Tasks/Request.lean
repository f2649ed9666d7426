import SasMigration.Fault
import SasMigration.Number.Numeral
import SasMigration.Text.Letter
import SasMigration.Value.Display

namespace SasMigration

namespace Request

abbrev Reading (α : Type) := Except FieldFault α

def given {α : Type} (default? : Option α) (v : Option Value) (read : Value → Reading α) :
    Reading α :=
  match v with
  | some .null => .error .null
  | some v => read v
  | none =>
    match default? with
    | some a => .ok a
    | none => .error .missing

def readText : Value → Reading Text
  | .text t => .ok t
  | .list _ | .object _ => .error .notText
  | v => .ok v.display

def readInteger : Value → Reading Int
  | .int n => .ok n
  | .bool b => .ok (if b then 1 else 0)
  | .number x =>
    match x.truncate? with
    | some n => .ok n
    | none => .error .notInteger
  | .text t =>
    match Text.readInt? t with
    | some n => .ok n
    | none => .error .notInteger
  | _ => .error .notInteger

def wordsForTrue : List Text := ["1", "on", "t", "true", "y", "yes"]

def wordsForFalse : List Text := ["0", "off", "f", "false", "n", "no"]

def readBoolean : Value → Reading Bool
  | .bool b => .ok b
  | .int n => if n = 1 then .ok true else if n = 0 then .ok false else .error .notBoolean
  | .number x =>
    if x.text = "1.0".toList then .ok true else if x.isZero then .ok false else .error .notBoolean
  | .text t =>
    let t := Text.lower t
    if wordsForTrue.contains t then .ok true
    else if wordsForFalse.contains t then .ok false
    else .error .notBoolean
  | _ => .error .notBoolean

def faultOf {α : Type} (name : Text) : Reading α → List (Text × FieldFault)
  | .ok _ => []
  | .error fault => [(name, fault)]

/-- An infinite number stops the reading of a request at once. -/
def checkFinite : Option Value → Except Fault Unit
  | some (.number (.infinite _)) => .error .infiniteNumber
  | _ => .ok ()

def textField (body : Fields) (name : Text) (default? : Option Text) : Reading Text :=
  given default? (body.get? name) readText

def sizeName : Text := "max_token_size"

def size (body : Fields) : Reading Int := given (some 4000) (body.get? sizeName) readInteger

end Request

structure CodeAnalysisRequest where
  code : Text
  size : Int
deriving DecidableEq, Repr

structure FileAnalysisRequest where
  path : Text
  size : Int
deriving DecidableEq, Repr

structure DirectoryAnalysisRequest where
  path : Text
  wild : Text
  size : Int
deriving DecidableEq, Repr

structure RunRequest where
  code : Text
  skipPackages : Bool
deriving DecidableEq, Repr

namespace Request

def code (body : Fields) : Except Fault CodeAnalysisRequest := do
  checkFinite (body.get? sizeName)
  match textField body "code" none, size body with
  | .ok code, .ok size => return { code, size }
  | code, size =>
    throw (.request "CodeAnalysisRequest" (faultOf "code" code ++ faultOf sizeName size))

def file (body : Fields) : Except Fault FileAnalysisRequest := do
  checkFinite (body.get? sizeName)
  match textField body "file_path" none, size body with
  | .ok path, .ok size => return { path, size }
  | path, size =>
    throw (.request "FileAnalysisRequest" (faultOf "file_path" path ++ faultOf sizeName size))

def directory (body : Fields) (defaultWild : Text) : Except Fault DirectoryAnalysisRequest := do
  checkFinite (body.get? sizeName)
  match textField body "directory_path" none, textField body "file_pattern" (some defaultWild),
      size body with
  | .ok path, .ok wild, .ok size => return { path, wild, size }
  | path, wild, size =>
    throw (.request "DirectoryAnalysisRequest"
      (faultOf "directory_path" path ++ faultOf "file_pattern" wild ++ faultOf sizeName size))

def run (body : Fields) : Except Fault RunRequest :=
  match textField body "code" none,
      given (some false) (body.get? "skip_dependencies") readBoolean with
  | .ok code, .ok skipPackages => .ok { code, skipPackages }
  | code, skip =>
    .error (.request "CodeRequest" (faultOf "code" code ++ faultOf "skip_dependencies" skip))

end Request

end SasMigration
