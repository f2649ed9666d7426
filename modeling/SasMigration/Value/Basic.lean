import SasMigration.Number.Binary

namespace SasMigration

inductive Value
  | null
  | bool (b : Bool)
  | int (n : Int)
  | number (x : Binary)
  | text (t : Text)
  | list (items : List Value)
  | object (fields : List (Text × Value))
deriving Repr, Inhabited

abbrev Fields := List (Text × Value)

namespace Fields

def get? (fields : Fields) (key : Text) : Option Value :=
  (fields.find? fun field ↦ field.1 == key).map (·.2)

def has (fields : Fields) (key : Text) : Bool := fields.any fun field ↦ field.1 == key

/-- Sets a field: a new key comes last, an old key keeps its place. -/
def putKey {κ : Type} [DecidableEq κ] (key : κ) (value : Value) :
    List (κ × Value) → List (κ × Value)
  | [] => [(key, value)]
  | field :: fields =>
    if field.1 = key then (key, value) :: fields else field :: putKey key value fields

def put (fields : Fields) (key : Text) (value : Value) : Fields := putKey key value fields

def putAll (fields : Fields) (new : Fields) : Fields :=
  new.foldl (fun done field ↦ put done field.1 field.2) fields

end Fields

namespace Value

def kindName : Value → Text
  | .null => "NoneType"
  | .bool _ => "bool"
  | .int _ => "int"
  | .number _ => "float"
  | .text _ => "str"
  | .list _ => "list"
  | .object _ => "dict"

/-- Everything but null, false, zero and what is empty. -/
def isTrue : Value → Bool
  | .null => false
  | .bool b => b
  | .int n => n != 0
  | .number x => !x.isZero
  | .text t => !t.isEmpty
  | .list items => !items.isEmpty
  | .object fields => !fields.isEmpty

def texts (ts : List Text) : Value := .list (ts.map .text)

def ofNat (n : Nat) : Value := .int n

def get? : Value → Text → Option Value
  | .object fields, key => Fields.get? fields key
  | _, _ => none

end Value

end SasMigration
