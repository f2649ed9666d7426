import SasMigration.Fault
import SasMigration.Value.Reader
import SasMigration.Value.Writer

namespace SasMigration.Value

def integerPiece (n : Int) : Except Fault Text :=
  if Text.mostDigits < (Text.ofNat n.natAbs).length then .error .longInteger
  else .ok (Text.ofInt n)

mutual

/-- The pieces of a value at an indentation level, if it may be nested so deep. Items and fields
follow a text that leads to them. -/
def piecesAt (ascii : Bool) : Nat → Nat → Value → List (Except Fault Text)
  | _, _, .int n => [integerPiece n]
  | _, 0, .list _ => [.error .deepValue]
  | level, depth + 1, .list (v :: vs) =>
    itemPieces ascii (level + 1) depth ('[' :: newLine (level + 1)) (v :: vs) ++
      [.ok (newLine level), .ok "]"]
  | _, 0, .object _ => [.error .deepValue]
  | level, depth + 1, .object (field :: fields) =>
    fieldPieces ascii (level + 1) depth (Char.ofNat 123 :: newLine (level + 1)) (field :: fields) ++
      [.ok (newLine level), .ok [Char.ofNat 125]]
  | level, _, v => [.ok (v.jsonAt ascii level)]

def itemPieces (ascii : Bool) (level depth : Nat) :
    Text → List Value → List (Except Fault Text)
  | _, [] => []
  | lead, .int n :: vs =>
    (integerPiece n).map (lead ++ ·) :: itemPieces ascii level depth (',' :: newLine level) vs
  | lead, v :: vs =>
    .ok lead :: piecesAt ascii level depth v ++
      itemPieces ascii level depth (',' :: newLine level) vs

def fieldPieces (ascii : Bool) (level depth : Nat) :
    Text → List (Text × Value) → List (Except Fault Text)
  | _, [] => []
  | lead, (key, v) :: fields =>
    .ok lead :: .ok (jsonText ascii key) :: .ok ": " :: piecesAt ascii level depth v ++
      fieldPieces ascii level depth (',' :: newLine level) fields

end

def pieces (ascii : Bool) (v : Value) : List (Except Fault Text) := piecesAt ascii 0 deepest v

end SasMigration.Value
