import SasMigration.Model.Chat
import SasMigration.Program.Reference

namespace SasMigration

namespace References

def fields (r : References) : Fields :=
  [("internal_dependencies", .texts r.calls), ("external_dependencies", .texts r.external),
    ("dataset_usage",
      .object [("input", .texts r.usage.input), ("output", .texts r.usage.output)])]

end References

namespace Fields

def keyOf : Value → Except Fault Text
  | .text t => .ok t
  | .null => .ok "null"
  | .bool b => .ok (if b then "true" else "false")
  | .int n => .ok (Text.ofInt n)
  | .number x => .ok x.text
  | v => .error (.notKey v.kindName)

/-- The two parts of an item that stands for a field: two characters, two items, or two keys. -/
def pairOf (index : Nat) : Value → Except Fault (Text × Value)
  | .text [a, b] => .ok ([a], .text [b])
  | .text t => .error (.pairLength index t.length)
  | .list [k, v] => (keyOf k).map fun key ↦ (key, v)
  | .list items => .error (.pairLength index items.length)
  | .object [(k, _), (l, _)] => .ok (k, .text l)
  | .object fields => .error (.pairLength index fields.length)
  | _ => .error (.notPair index)

def pairsFrom (index : Nat) : List Value → Except Fault Fields
  | [] => .ok []
  | v :: vs => do
    let pair ← pairOf index v
    let pairs ← pairsFrom (index + 1) vs
    return pair :: pairs

def ofValue : Value → Except Fault Fields
  | .object fields => .ok fields
  | .list items => pairsFrom 0 items
  | .text t => pairsFrom 0 (t.map fun c ↦ .text [c])
  | v => .error (.notIterable v.kindName)

def update (fields : Fields) (v : Value) : Except Fault Fields := (ofValue v).map fields.putAll

end Fields

namespace DependencyAnalysis

/-- Analysis with a model; a model that cannot be set up is a fault. -/
def ofCode (model : ChatModel) (code : Text) : Except Fault Fields := do
  model.setUp
  let basic := (References.ofCode code).fields
  if model.isReady then Fields.update basic model.dependencyAdvice else return basic

end DependencyAnalysis

end SasMigration
