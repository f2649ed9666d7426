import SasMigration.Pattern.Matching
import SasMigration.Text.Blank

namespace SasMigration.Imports

def dotted : Pattern :=
  .span .longest 1 none (.ofItems false .distinguished [.kind .word false false, .char '.'])

def imported : Pattern :=
  .both dotted (.optional (.inOrder [.blanks1, .literal "as", .blanks1, .word1]))

def importedList : Pattern :=
  .both imported
    (.repeated .longest 0 none (.inOrder [.blanks, .literal ",", .blanks, imported]))

def importPart : Pattern := .inOrder [.literal "import", .blanks1, importedList]

/-- A line that is an import statement and nothing else. -/
def statement : Pattern :=
  .inOrder
    [.anchor .textStart,
      .either (.inOrder [.literal "from", .blanks1, dotted, .blanks1, importPart]) importPart,
      .anchor .finalLineEnd]

def isStatement (line : Text) : Bool := (statement.matchStart? (Text.strip line)).isSome

def ofCode (code : Text) : List Text :=
  Text.distinctSorted (((Text.lines code).filter isStatement).map Text.strip)

def removedFrom (code : Text) : Text :=
  Text.unlines ((Text.lines code).filter fun line ↦ !isStatement line)

/-- The imports of the programs that items hold, then these programs without them. -/
def mergeOf {α : Type} (program : α → Text) (items : List α) : Text :=
  Text.unlines (Text.distinctSorted (items.flatMap fun x ↦ ofCode (program x))) ++ "\n\n" ++
    Text.join "\n\n" (items.map fun x ↦ removedFrom (program x))

def merge (pieces : List Text) : Text := mergeOf id pieces

def mergeFunctions (functions : List (Text × Text)) : Text := mergeOf Prod.snd functions

end SasMigration.Imports
