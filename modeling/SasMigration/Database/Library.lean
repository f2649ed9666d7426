import SasMigration.Pattern.Matching
import SasMigration.Text.Blank
import SasMigration.Value.Basic

namespace SasMigration

inductive Operation
  | select
  | update
  | insert
  | delete
  | createView
  | selectInto
deriving DecidableEq, Repr

/-- A table and what is done to it. A table has no name when the pattern that found it has a group
of its own that took no part. -/
structure TableUse where
  table : Option Text
  operations : List Operation
deriving DecidableEq, Repr

structure Library where
  database : Text
  kind : Text
  connection : Text
  tables : List TableUse
deriving DecidableEq, Repr

abbrev Variables := List (Text × Text)

namespace Operation

def name : Operation → Text
  | select => "SELECT"
  | update => "UPDATE"
  | insert => "INSERT"
  | delete => "DELETE"
  | createView => "CREATE VIEW"
  | selectInto => "SELECT INTO"

end Operation

namespace Variables

def get? (vars : Variables) (name : Text) : Option Text :=
  (vars.find? fun v ↦ v.1 == name).map (·.2)

/-- Sets a variable: a new name comes last, an old name keeps its place. -/
def put : Variables → Text → Text → Variables
  | [], name, value => [(name, value)]
  | v :: vars, name, value =>
    if v.1 = name then (name, value) :: vars else v :: put vars name value

def definition : Pattern :=
  .inOrder [.keyword "%let", .blanks1, .group 1 .word1, .blanks, .literal "=", .blanks,
    .group 2 (.span .longest 1 none (.noneOf ";")), .literal ";"]

def addCode (vars : Variables) (code : Text) : Variables :=
  (definition.findAll code).foldl (fun vars m ↦
    vars.put (Text.strip ((m.group 1).getD [])) (Text.strip ((m.group 2).getD []))) vars

/-- The value of a reference to a variable; other texts, and references to variables that are not
defined, stand for themselves. -/
def resolve (vars : Variables) : Text → Text
  | '&' :: name => (vars.get? name).getD ('&' :: name)
  | t => t

end Variables

namespace Library

def teradata : Text := "TERADATA"

def isTeradata (kind : Text) : Bool := kind.map Text.asciiLower == teradata.map Text.asciiLower

def restOfStatement : Pattern := .span .longest 0 none (.noneOf ";")

def genericStatement : Pattern :=
  .inOrder [.keyword "libname", .blanks1, .group 1 .word1, .blanks1, .group 2 .word1,
    .group 3 restOfStatement, .literal ";"]

def ofGeneric (m : Match) : Library :=
  { database := (m.group 1).getD []
    kind := (m.group 2).getD []
    connection := Text.strip ((m.group 3).getD [])
    tables := [] }

/-- The libraries of all kinds but one, which has a syntax of its own. -/
def generic (code : Text) : List Library :=
  ((genericStatement.findAll code).map ofGeneric).filter fun l ↦ !isTeradata l.kind

def teradataStatement : Pattern :=
  .inOrder [.keyword "libname", .blanks1,
    .group 1 (.either .word1 (.both (.literal "&") .word1)), .blanks1, .keyword teradata, .blanks1,
    .group 2 restOfStatement, .literal ";"]

def schemaOption : Pattern :=
  .inOrder [.keyword "schema", .blanks, .literal "=", .blanks,
    .span .longest 0 (some 1) (.oneOf "\"'"),
    .group 1 (.span .longest 1 none
      (.ofItems true .distinguished
        [.char '"', .char '\'', .kind .blank false false, .char ';']))]

def schemaOf (connection : Text) : Text :=
  match schemaOption.find? connection with
  | some m => (m.group 1).getD []
  | none => "UNKNOWN"

def ofTeradata (vars : Variables) (m : Match) : Library :=
  let connection := Text.strip ((m.group 2).getD [])
  { database := vars.resolve (schemaOf connection)
    kind := teradata
    connection
    tables := [{ table := some (vars.resolve ((m.group 1).getD [])), operations := [] }] }

def ofTeradataAll (vars : Variables) (code : Text) : List Library :=
  (teradataStatement.findAll code).map (ofTeradata vars)

def ofCode (vars : Variables) (code : Text) : List Library :=
  generic code ++ ofTeradataAll vars code

end Library

namespace TableUse

def toValue (t : TableUse) : Value :=
  .object [("tableName", (t.table.map .text).getD .null),
    ("operations", .texts (t.operations.map Operation.name))]

end TableUse

namespace Library

def toValue (l : Library) : Value :=
  .object [("databaseName", .text l.database), ("databaseType", .text l.kind),
    ("connectionDetail", .text l.connection),
    ("operationTables", .list (l.tables.map TableUse.toValue))]

end Library

end SasMigration
