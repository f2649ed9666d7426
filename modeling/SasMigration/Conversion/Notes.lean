import SasMigration.Fault
import SasMigration.Value.Display

namespace SasMigration

namespace Value

def items : Value → Except Fault (List Value)
  | .list vs => .ok vs
  | .text t => .ok (t.map fun c ↦ .text [c])
  | .object fields => .ok (fields.map fun f ↦ .text f.1)
  | v => .error (.notIterable v.kindName)

def isText (t : Text) : Value → Bool
  | .text s => s == t
  | _ => false

/-- Whether a value has a key, a text among its items or as a part of it. -/
def holds (t : Text) : Value → Except Fault Bool
  | .object fields => .ok (Fields.has fields t)
  | .list vs => .ok (vs.any (isText t))
  | .text s => .ok (Text.occursIn t s)
  | v => .error (.notContainer v.kindName)

def lookUp (v : Value) (key : Text) : Except Fault (Option Value) :=
  match v with
  | .object fields => .ok (Fields.get? fields key)
  | v => .error (.noOperation v.kindName "get")

/-- The part of an analysis that has a name. An empty analysis has no parts. -/
def part? (v : Value) (key : Text) : Except Fault (Option Value) :=
  if v.isTrue then do
    if ← v.holds key then v.lookUp key else return none
  else .ok none

end Value

namespace DependencyNotes

def none : Text := "# No external dependencies detected"

def note (dependency : Value) : Text :=
  "# TODO: Handle external dependency - " ++ dependency.display

def opening : List Text :=
  ["# ===== External Dependencies =====",
    "# The following are external dependencies used in the SAS code that need manual handling"]

def closing : List Text := ["# =================="]

def ofList (dependencies : Value) : Except Fault Text := do
  let items ← dependencies.items
  return Text.unlines (opening ++ items.map note ++ closing)

def listed? (analysis : Value) : Except Fault (Option Value) := do
  match ← analysis.part? "external_dependencies" with
  | some v => return if v.isTrue then some v else Option.none
  | .none => return Option.none

def ofAnalysis (analysis : Value) : Except Fault Text := do
  match ← listed? analysis with
  | some v => ofList v
  | .none => return none

def mark (analysis : Value) (code : Text) : Except Fault Text := do
  match ← listed? analysis with
  | some v =>
    let notes ← ofList v
    return notes ++ "\n\n" ++ code
  | .none => return code

end DependencyNotes

end SasMigration
