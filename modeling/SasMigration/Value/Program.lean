import SasMigration.Fault

namespace SasMigration.Value

def searched : Value → Except Fault Text
  | .text t => .ok t
  | v => .error (.notSearchable v.kindName)

def divided : Value → Except Fault Text
  | .text t => .ok t
  | v => .error (.noOperation v.kindName "split")

def dividedAll : List Value → Except Fault (List Text)
  | [] => .ok []
  | v :: vs => do
    let first ← v.divided
    let rest ← dividedAll vs
    return first :: rest

end SasMigration.Value
