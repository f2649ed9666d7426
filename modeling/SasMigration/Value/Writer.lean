import SasMigration.Text.Quoted
import SasMigration.Value.Basic

namespace SasMigration.Value

/-- How a character stands in a quoted JSON text; `ascii` escapes what is not printable ASCII. -/
def jsonChar (ascii : Bool) (c : Char) : Text :=
  if c = '"' then "\\\""
  else if c = '\\' then "\\\\"
  else if c = '\n' then "\\n"
  else if c = '\r' then "\\r"
  else if c = '\t' then "\\t"
  else if c = Char.ofNat 8 then "\\b"
  else if c = Char.ofNat 12 then "\\f"
  else if c.toNat < 32 then "\\u" ++ Text.hexDigits 4 c.toNat
  else if !ascii || c.toNat < 127 then [c]
  else if c.toNat < 0x10000 then "\\u" ++ Text.hexDigits 4 c.toNat
  else
    let n := c.toNat - 0x10000
    "\\u" ++ Text.hexDigits 4 (0xd800 + n / 0x400) ++ "\\u" ++ Text.hexDigits 4 (0xdc00 + n % 0x400)

def jsonText (ascii : Bool) (t : Text) : Text := '"' :: t.flatMap (jsonChar ascii) ++ "\""

def jsonNumber : Binary → Text
  | .notANumber => "NaN"
  | .infinite negative => if negative then "-Infinity" else "Infinity"
  | x => x.text

def newLine (level : Nat) : Text := '\n' :: List.replicate (2 * level) ' '

mutual

def jsonAt (ascii : Bool) (level : Nat) : Value → Text
  | .null => "null"
  | .bool b => if b then "true" else "false"
  | .int n => Text.ofInt n
  | .number x => jsonNumber x
  | .text t => jsonText ascii t
  | .list [] => "[]"
  | .list (v :: vs) =>
    '[' :: newLine (level + 1) ++ jsonItemsAt ascii (level + 1) (v :: vs) ++ newLine level ++ "]"
  | .object [] => [Char.ofNat 123, Char.ofNat 125]
  | .object (field :: fields) =>
    Char.ofNat 123 :: newLine (level + 1) ++ jsonFieldsAt ascii (level + 1) (field :: fields) ++
      newLine level ++ [Char.ofNat 125]

def jsonItemsAt (ascii : Bool) (level : Nat) : List Value → Text
  | [] => []
  | [v] => jsonAt ascii level v
  | v :: vs => jsonAt ascii level v ++ ',' :: newLine level ++ jsonItemsAt ascii level vs

def jsonFieldsAt (ascii : Bool) (level : Nat) : List (Text × Value) → Text
  | [] => []
  | [(key, v)] => jsonText ascii key ++ ": " ++ jsonAt ascii level v
  | (key, v) :: fields =>
    jsonText ascii key ++ ": " ++ jsonAt ascii level v ++ ',' :: newLine level ++
      jsonFieldsAt ascii level fields

end

def json (ascii : Bool) (v : Value) : Text := jsonAt ascii 0 v

mutual

def jsonLine : Value → Text
  | .null => "null"
  | .bool b => if b then "true" else "false"
  | .int n => Text.ofInt n
  | .number x => jsonNumber x
  | .text t => jsonText true t
  | .list items => '[' :: jsonLineItems items ++ "]"
  | .object fields => Char.ofNat 123 :: jsonLineFields fields ++ [Char.ofNat 125]

def jsonLineItems : List Value → Text
  | [] => []
  | [v] => jsonLine v
  | v :: vs => jsonLine v ++ ", " ++ jsonLineItems vs

def jsonLineFields : List (Text × Value) → Text
  | [] => []
  | [(key, v)] => jsonText true key ++ ": " ++ jsonLine v
  | (key, v) :: fields => jsonText true key ++ ": " ++ jsonLine v ++ ", " ++ jsonLineFields fields

end

end SasMigration.Value
