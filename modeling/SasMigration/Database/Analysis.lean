import SasMigration.Database.Usage
import SasMigration.Value.Document
import SasMigration.Value.Writer

namespace SasMigration

structure DatabaseAnalysis where
  code : Text
  assigned : Variables
  libraries : List Library
deriving DecidableEq, Repr

namespace DatabaseAnalysis

def start (code : Text) : DatabaseAnalysis := { code, assigned := [], libraries := [] }

def readVariables (a : DatabaseAnalysis) : DatabaseAnalysis :=
  { a with assigned := a.assigned.addCode a.code }

def load (a : DatabaseAnalysis) : DatabaseAnalysis :=
  { a with libraries := Library.ofCode a.assigned a.code }

def scan (a : DatabaseAnalysis) : DatabaseAnalysis × Option Fault :=
  let (libraries, fault) := Library.scanCode a.libraries a.code
  ({ a with libraries }, fault)

/-- The whole analysis. One that ends with a fault leaves all libraries that it met. -/
def run (a : DatabaseAnalysis) : DatabaseAnalysis × Option Fault :=
  match a.readVariables.load.scan with
  | (a, some fault) => (a, some fault)
  | (a, none) => ({ a with libraries := Library.usedAll a.libraries }, none)

def value (libraries : List Library) : Value := .list (libraries.map Library.toValue)

def ofCode (code : Text) : Except Fault (List Library) :=
  match (start code).run with
  | (_, some fault) => .error fault
  | (a, none) => .ok a.libraries

def json (code : Text) : Except Fault Text :=
  (ofCode code).map fun libraries ↦ (value libraries).json true

end DatabaseAnalysis

/-- The data sources of a program, each found when it is first asked for and kept as the document
that describes it. -/
structure SourceReport where
  code : Text
  databases : Option Value
deriving Repr

namespace SourceReport

def start (code : Text) : SourceReport := { code, databases := none }

def toValue (r : SourceReport) : Value :=
  match r.databases with
  | some databases => .object [("databases", databases)]
  | none => .object []

/-- The databases of a program, as read back from the text that describes them. -/
def databasesOf (code : Text) : Except Fault Value := do
  let described ← DatabaseAnalysis.json code
  Value.load described

def renew (r : SourceReport) : Except Fault SourceReport :=
  (databasesOf r.code).map fun databases ↦ { r with databases := some databases }

def complete (r : SourceReport) : Except Fault SourceReport :=
  match r.databases with
  | some _ => .ok r
  | none => r.renew

def json (r : SourceReport) : Text := r.toValue.json true

def databasesJson (r : SourceReport) : Text := (r.databases.getD (.list [])).json true

def ofCode (code : Text) : Except Fault SourceReport := (start code).complete

end SourceReport

end SasMigration
