import SasMigration.Pattern.Matching

namespace SasMigration

structure MacroDefinition where
  name : Text
  code : Text
  placeholder : Text
  index : Nat
deriving DecidableEq, Repr

namespace MacroDefinition

/-- A definition from `%macro` and its name to the first `%mend` with the same name. -/
def pattern : Pattern :=
  .inOrder [.keyword "%macro", .blanks1, .group 1 .word1, .anything, .keyword "%mend", .blanks1,
    .again 1 .folded, .blanks, .literal ";"]

def placeholderFor (index : Nat) (name file : Text) : Text :=
  "/* MACRO_" ++ Text.ofNat index ++ "_" ++ name ++ "_" ++ file ++ " */"

def ofMatch (file : Text) (m : Match) (index : Nat) : MacroDefinition :=
  let name := (m.group 1).getD []
  { name, code := m.text, placeholder := placeholderFor index name file, index }

def all (code file : Text) : List MacroDefinition :=
  ((pattern.findAll code).zipIdx).map fun (m, index) ↦ ofMatch file m index

/-- The program with every copy of every definition replaced by its placeholder, one definition
after the other. -/
def mainBody (code : Text) (macros : List MacroDefinition) : Text :=
  macros.foldl (fun body m ↦ Text.replaceAll m.code m.placeholder body) code

end MacroDefinition

end SasMigration
