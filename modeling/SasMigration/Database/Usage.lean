import SasMigration.Database.Library
import SasMigration.Fault
import SasMigration.Pattern.Reader

namespace SasMigration

/-- A form of SQL statement: what stands before the name of a library, as a written pattern. -/
structure SqlForm where
  operation : Operation
  opening : Text
  flags : PatternFlags

structure Mention where
  table : Option Text
  operation : Operation
deriving DecidableEq, Repr

namespace SqlForm

def all : List SqlForm :=
  [⟨.select, "select\\s+.*?\\s+from\\s+", .anyCaseDotAll⟩,
    ⟨.select, "join\\s+", .anyCase⟩,
    ⟨.update, "update\\s+", .anyCase⟩,
    ⟨.insert, "insert\\s+(?:into\\s+)?", .anyCase⟩,
    ⟨.delete, "delete\\s+from\\s+", .anyCase⟩,
    ⟨.createView, "create\\s+view\\s+", .anyCase⟩,
    ⟨.selectInto, "select\\s+.*?\\s+into\\s+", .anyCaseDotAll⟩]

/-- The form with the name of a library and a table. The name is read as a pattern. -/
def written (form : SqlForm) (name : Text) : Text :=
  form.opening ++ "(?:" ++ name ++ "\\.)(\\w+)"

def mentions (form : SqlForm) (name sql : Text) : Except Fault (List Mention) :=
  match Pattern.read form.flags (form.written name) with
  | .error fault => .error (.pattern fault)
  | .ok p => .ok ((p.pattern.findAll sql).map fun m ↦ ⟨m.group 1, form.operation⟩)

end SqlForm

namespace Mention

def ofForms (name sql : Text) : List SqlForm → Except Fault (List Mention)
  | [] => .ok []
  | form :: forms => do
    let found ← form.mentions name sql
    let more ← ofForms name sql forms
    return found ++ more

def ofName (name sql : Text) : Except Fault (List Mention) := ofForms name sql SqlForm.all

end Mention

namespace TableUse

def addOperation (operations : List Operation) (op : Operation) : List Operation :=
  if op ∈ operations then operations else operations ++ [op]

def add (t : TableUse) (operations : List Operation) : TableUse :=
  { t with operations := operations.foldl addOperation t.operations }

/-- Adds operations to the first use of a table, or a new use after all others. -/
def merge (table : Option Text) (operations : List Operation) : List TableUse → List TableUse
  | [] => [{ table, operations := operations.foldl addOperation [] }]
  | t :: ts => if t.table = table then t.add operations :: ts else t :: merge table operations ts

def ofMentions (mentions : List Mention) : List TableUse :=
  mentions.foldl (fun ts m ↦ merge m.table [m.operation] ts) []

def mergeAll (ts found : List TableUse) : List TableUse :=
  found.foldl (fun ts t ↦ merge t.table t.operations ts) ts

def mentions (sql : Text) (t : TableUse) : Except Fault (List Mention) :=
  match t.table with
  | some name => Mention.ofName name sql
  | none => .error (.notText "NoneType")

/-- Looks for the name of each table as that of a library: the tables with their new operations,
the mentions, and the fault that ended the search. -/
def scan (sql : Text) : List TableUse → List TableUse × List Mention × Option Fault
  | [] => ([], [], none)
  | t :: ts =>
    match t.mentions sql with
    | .error fault => (t :: ts, [], some fault)
    | .ok found =>
      let (ts, more, fault) := scan sql ts
      (t.add (found.map Mention.operation) :: ts, found ++ more, fault)

end TableUse

namespace Library

def scan (sql : Text) (l : Library) : Library × Option Fault :=
  let (tables, found, fault) :=
    if l.kind = teradata then TableUse.scan sql l.tables else (l.tables, [], none)
  let l := { l with tables }
  match fault with
  | some fault => (l, some fault)
  | none =>
    match Mention.ofName l.database sql with
    | .error fault => (l, some fault)
    | .ok more =>
      ({ l with tables := TableUse.mergeAll tables (TableUse.ofMentions (found ++ more)) }, none)

def scanAll (sql : Text) : List Library → List Library × Option Fault
  | [] => ([], none)
  | l :: ls =>
    match l.scan sql with
    | (l, some fault) => (l :: ls, some fault)
    | (l, none) =>
      let (ls, fault) := scanAll sql ls
      (l :: ls, fault)

def scanBlocks (libraries : List Library) : List Text → List Library × Option Fault
  | [] => (libraries, none)
  | sql :: blocks =>
    match scanAll sql libraries with
    | (libraries, some fault) => (libraries, some fault)
    | (libraries, none) => scanBlocks libraries blocks

def sqlBlock : Pattern :=
  .inOrder [.keyword "proc", .blanks1, .keyword "sql;", .group 1 .anything, .keyword "quit;"]

def scanCode (libraries : List Library) (code : Text) : List Library × Option Fault :=
  scanBlocks libraries (sqlBlock.captures 1 code)

def used (l : Library) : Library :=
  { l with tables := l.tables.filter fun t ↦ !t.operations.isEmpty }

def usedAll (libraries : List Library) : List Library :=
  (libraries.map used).filter fun l ↦ !l.tables.isEmpty

end Library

end SasMigration
