import SasMigration.Text.Quoted
import SasMigration.Value.Basic

namespace SasMigration.Value

mutual

def shown : Value → Text
  | .null => "None"
  | .bool b => if b then "True" else "False"
  | .int n => Text.ofInt n
  | .number x => x.text
  | .text t => Text.quoted t
  | .list items => '[' :: shownItems items ++ "]"
  | .object fields => Char.ofNat 123 :: shownFields fields ++ [Char.ofNat 125]

def shownItems : List Value → Text
  | [] => []
  | [v] => shown v
  | v :: vs => shown v ++ ", " ++ shownItems vs

def shownFields : List (Text × Value) → Text
  | [] => []
  | [(key, v)] => Text.quoted key ++ ": " ++ shown v
  | (key, v) :: fields => Text.quoted key ++ ": " ++ shown v ++ ", " ++ shownFields fields

end

def display : Value → Text
  | .text t => t
  | v => shown v

end SasMigration.Value
