import SasMigration.Fault
import SasMigration.Pattern.Reader
import SasMigration.Program.Reference

namespace SasMigration

/-- The columns of a data set. A column has one name, or several when the name of the data set,
read as a pattern, has groups of its own. -/
structure Schema where
  dataSet : Text
  columns : List (List Text)
deriving DecidableEq, Repr

namespace DataSet

def patterns : List Pattern :=
  [References.afterKeyword "set", References.afterKeyword "data", References.afterKeyword "from",
    References.asOption "table", References.asOption "out"]

/-- The name that is kept of what a pattern took, unless it is blank or begins as a macro does. -/
def kept? (found : Text) : Option Text :=
  let name := Text.strip found
  if name.isEmpty || Text.startsWith ['%'] name then none else some name

def names (code : Text) : List Text :=
  Text.distinctSorted
    (patterns.flatMap fun p ↦ (References.dataSetsBy p code).filterMap kept?)

def leList : List Text → List Text → Bool
  | [], _ => true
  | _ :: _, [] => false
  | a :: as, b :: bs => if a = b then leList as bs else Text.le a b

/-- What the groups of a match hold, empty where one took no part; the whole match if there are
none. -/
def captured (p : NumberedPattern) (m : Match) : List Text :=
  if p.groups = 0 then [m.text]
  else (List.range p.groups).map fun i ↦ (m.group (i + 1)).getD []

/-- The columns that follow the name of a data set and a point; the name is read as a pattern. -/
def columns (code dataSet : Text) : Except Fault (List (List Text)) :=
  match Pattern.read .anyCase (dataSet ++ "\\.([\\w]+)") with
  | .error fault => .error (.pattern fault)
  | .ok p =>
    .ok ((Text.firstOccurrences ((p.pattern.findAll code).map (captured p))).mergeSort leList)

def schemas (code : Text) : List Text → Except Fault (List Schema)
  | [] => .ok []
  | dataSet :: rest => do
    let found ← columns code dataSet
    let more ← schemas code rest
    return if found.isEmpty then more else { dataSet, columns := found } :: more

end DataSet

namespace Schema

def columnValue (name : List Text) : Value :=
  let written := match name with
    | [t] => .text t
    | ts => Value.texts ts
  .object [("name", written), ("type", .text "unknown"), ("description", .text [])]

def field (s : Schema) : Text × Value := (s.dataSet, .list (s.columns.map columnValue))

def toValue (schemas : List Schema) : Value :=
  .object (Fields.putAll [] (schemas.map field))

end Schema

end SasMigration
