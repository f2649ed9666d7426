import SasMigration.Fault
import SasMigration.Number.Numeral
import SasMigration.Program.Macro

namespace SasMigration

namespace Chunk

/-- The pieces of a program: the texts between semicolons and line feeds, and these themselves. -/
def pieces : Text → List Text
  | [] => [[]]
  | c :: rest =>
    if c = ';' ∨ c = '\n' then [] :: [c] :: pieces rest
    else match pieces rest with
      | [] => [[c]]
      | piece :: more => (c :: piece) :: more

/-- Adds pieces to the group begun (its pieces last to first, with their size) as long as the limit
allows; an empty group takes any piece. -/
def groupFrom (limit : Int) : List Text → Nat → List Text → List (List Text)
  | [], _, [] => []
  | begun, _, [] => [begun.reverse]
  | begun, size, piece :: rest =>
    if limit < Int.ofNat (size + piece.length) ∧ begun ≠ [] then
      begun.reverse :: groupFrom limit [piece] piece.length rest
    else groupFrom limit (piece :: begun) (size + piece.length) rest

def groups (limit : Int) (code : Text) : List (List Text) := groupFrom limit [] 0 (pieces code)

def ofCode (limit : Int) (code : Text) : List Text := (groups limit code).map List.flatten

/-- The limit in characters for a size in tokens, at four characters to a token. A text is repeated
four times and read as a number. -/
def limitOf : Value → Except Fault Int
  | .int n => .ok (4 * n)
  | .bool b => .ok (if b then 4 else 0)
  | .number x =>
    match x.quadruple with
    | .infinite _ => .error .infiniteNumber
    | .notANumber => .error .undefinedNumber
    | y => .ok (y.truncate?.getD 0)
  | .text t =>
    let written := t ++ t ++ t ++ t
    match Text.readInt written with
    | .ok n => .ok n
    | .error .malformed => .error (.badNumeral written)
    | .error (.tooLong digits) => .error (.longNumeral digits)
  | .list _ => .error (.notNumeric "list")
  | v => .error (.noProduct v.kindName)

def defaultSize : Value := .int 4000

end Chunk

/-- A program divided into its macros and the chunks of the rest. -/
structure Division where
  macros : List MacroDefinition
  chunks : List Text
deriving DecidableEq, Repr

namespace Division

def ofCode (size : Value) (code file : Text) : Except Fault Division := do
  let macros := MacroDefinition.all code file
  let limit ← Chunk.limitOf size
  return { macros, chunks := Chunk.ofCode limit (MacroDefinition.mainBody code macros) }

end Division

end SasMigration
