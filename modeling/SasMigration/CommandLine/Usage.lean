import SasMigration.CommandLine.Options

namespace SasMigration

/-- A row of the table. -/
structure UsageEntry where
  indent : Nat
  head : Text
  help : Text
deriving DecidableEq, Repr

namespace Usage

def lineWidth : Nat := 78

def mostPosition : Nat := 24

def spaces (n : Nat) : Text := List.replicate n ' '

/-- Parts put into lines, as many into each as fit. The first line has `used` characters before
`line`, the others `indent`. -/
def fill (width indent : Nat) : List Text → Nat → List Text → List (List Text)
  | line, _, [] => if line.isEmpty then [] else [line]
  | line, used, part :: parts =>
    if used + part.length > width ∧ line ≠ [] then
      line :: fill width indent [part] (indent + part.length + 1) parts
    else fill width indent (line ++ [part]) (used + part.length + 1) parts

def words (t : Text) : List Text := (Text.splitOn [' '] t).filter fun w ↦ !w.isEmpty

def wrapped (width : Nat) (t : Text) : List Text :=
  (fill width 0 [] 0 (words t)).map (Text.join [' '])

def placeholder (o : OptionSpec) : Text := o.field.map Char.toUpper

def form (o : OptionSpec) (name : Text) : Text :=
  if o.takesValue then name ++ " " ++ placeholder o else name

def bracketed (t : Text) : Text := "[" ++ t ++ "]"

def optionPart (o : OptionSpec) : Text := bracketed (form o (o.names.headD []))

def choicesForm (choices : List (Text × Text)) : Text :=
  "\x7b" ++ Text.join [','] (choices.map (·.1)) ++ "\x7d"

def operandParts : Operand → List Text
  | .nothing => []
  | .required field _ => [field]
  | .optional field _ => [bracketed field]
  | .command _ _ choices => [choicesForm choices, "..."]

def opening : Text := "usage: "

def line (name : Text) (spec : CommandSpec) : Text :=
  let options := spec.options.map optionPart
  let operands := operandParts spec.operand
  let whole := opening ++ Text.join [' '] (name :: options ++ operands)
  if whole.length ≤ lineWidth then whole
  else
    let indent := opening.length + name.length + 1
    let first := fill lineWidth indent [] opening.length (name :: options)
    let second := fill lineWidth indent [] indent operands
    opening ++ Text.join ('\n' :: spaces indent) ((first ++ second).map (Text.join [' ']))

def operandEntries : Operand → List UsageEntry
  | .nothing => []
  | .required field help | .optional field help => [⟨2, field, help⟩]
  | .command _ help choices =>
    ⟨2, choicesForm choices, help⟩ :: choices.map fun c ↦ ⟨4, c.1, c.2⟩

def optionEntry (o : OptionSpec) : UsageEntry :=
  ⟨2, Text.join ", " (o.names.map (form o)), o.help⟩

/-- The column at which help stands, after the longest head unless that is too far. -/
def position (entries : List UsageEntry) : Nat :=
  min mostPosition ((entries.map fun e ↦ e.head.length + 4).foldl max 0)

def entryLines (position : Nat) (e : UsageEntry) : List Text :=
  let width := position - e.indent - 2
  let help := wrapped (lineWidth - position) e.help
  let head := spaces e.indent ++ e.head
  let below := help.map (spaces position ++ ·)
  if e.head.length ≤ width then
    match help with
    | [] => [head]
    | first :: _ =>
      (head ++ spaces (width - e.head.length) ++ "  " ++ first) :: below.drop 1
  else head :: below

def table (title : Text) (position : Nat) (entries : List UsageEntry) : List Text :=
  if entries.isEmpty then []
  else [Text.unlines ((title ++ ":") :: entries.flatMap (entryLines position))]

def help (name : Text) (spec : CommandSpec) : Text :=
  let operands := operandEntries spec.operand
  let options := spec.options.map optionEntry
  let position := position (operands ++ options)
  let described : List Text := if spec.description.isEmpty then [] else [spec.description]
  Text.join "\n\n" ([line name spec] ++ described ++
    table "positional arguments" position operands ++ table "options" position options)

end Usage

namespace Halt

def output (h : Halt) : Text :=
  match h.reason with
  | .help => Usage.help h.name h.spec ++ "\n"
  | .fault _ => []

def errors (h : Halt) : Text :=
  match h.reason with
  | .help => []
  | .fault f => Usage.line h.name h.spec ++ "\n" ++ h.name ++ ": error: " ++ f.message ++ "\n"

def exit (h : Halt) : Nat :=
  match h.reason with
  | .help => 0
  | .fault _ => 2

end Halt

end SasMigration
