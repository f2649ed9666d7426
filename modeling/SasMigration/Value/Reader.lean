import SasMigration.Number.Numeral
import SasMigration.Value.Basic

namespace SasMigration

/-- What is wrong with a JSON text, at the first place where something is. -/
inductive JsonFault
  | malformed
  | longInteger (digits : Nat)
  | deepList
  | deepObject
deriving DecidableEq, Repr

/-- A code point of a quoted text: a character, or a surrogate without the other half. -/
inductive CodePoint
  | char (c : Char)
  | half (unit : Nat)
deriving DecidableEq, Repr

namespace CodePoint

-- No character is a half. The last characters there are stand for them, one for each.
def toChar : CodePoint → Char
  | .char c => c
  | .half unit => Char.ofNat (0x10f800 + (unit - 0xd800))

def toText (points : List CodePoint) : Text := points.map toChar

end CodePoint

namespace Value

def orMalformed {α : Type} : Option α → Except JsonFault α
  | some a => .ok a
  | none => .error .malformed

def isJsonBlank (c : Char) : Bool := c == ' ' || c == '\t' || c == '\n' || c == '\r'

def skipBlanks (t : Text) : Text := t.dropWhile isJsonBlank

def readUnit : Text → Option (Nat × Text)
  | a :: b :: c :: d :: rest => do
    let a ← Text.hexValue? a
    let b ← Text.hexValue? b
    let c ← Text.hexValue? c
    let d ← Text.hexValue? d
    return (a * 4096 + b * 256 + c * 16 + d, rest)
  | _ => none

def isHighUnit (n : Nat) : Bool := 0xd800 ≤ n && n ≤ 0xdbff

def isLowUnit (n : Nat) : Bool := 0xdc00 ≤ n && n ≤ 0xdfff

/-- A code point written as one unit or as a pair of surrogate units. -/
def readUnits (t : Text) : Option (CodePoint × Text) := do
  let (high, rest) ← readUnit t
  if isHighUnit high then
    match rest with
    | '\\' :: 'u' :: rest' =>
      match readUnit rest' with
      | some (low, rest'') =>
        if isLowUnit low then
          let c := Char.ofNat (0x10000 + (high - 0xd800) * 0x400 + (low - 0xdc00))
          return (.char c, rest'')
        else return (.half high, rest)
      | none => none
    | _ => return (.half high, rest)
  else if isLowUnit high then return (.half high, rest)
  else return (.char (Char.ofNat high), rest)

/-- The rest of a quoted text, up to its closing quote; the first argument bounds the number of
characters. -/
def readQuoted : Nat → Text → Option (List CodePoint × Text)
  | 0, _ => none
  | _, [] => none
  | n + 1, c :: rest =>
    if c = '"' then some ([], rest)
    else if c.toNat < 32 then none
    else if c = '\\' then
      match rest with
      | [] => none
      | e :: rest' =>
        let keep (d : CodePoint) (rest : Text) : Option (List CodePoint × Text) :=
          (readQuoted n rest).map fun (t, r) ↦ (d :: t, r)
        if e = 'u' then
          match readUnits rest' with
          | some (d, rest'') => keep d rest''
          | none => none
        else if e = '"' || e = '\\' || e = '/' then keep (.char e) rest'
        else if e = 'b' then keep (.char (Char.ofNat 8)) rest'
        else if e = 'f' then keep (.char (Char.ofNat 12)) rest'
        else if e = 'n' then keep (.char '\n') rest'
        else if e = 'r' then keep (.char '\r') rest'
        else if e = 't' then keep (.char '\t') rest'
        else none
    else (readQuoted n rest).map fun (t, r) ↦ (.char c :: t, r)

/-- The digits before the point: a zero alone, or digits that begin with none. -/
def readWhole : Text → Option (Text × Text)
  | [] => none
  | c :: rest =>
    if c = '0' then some (['0'], rest)
    else if c.isDigit then some (c :: rest.takeWhile Char.isDigit, rest.dropWhile Char.isDigit)
    else none

def readFraction : Text → Option Text × Text
  | '.' :: rest =>
    let digits := rest.takeWhile Char.isDigit
    if digits.isEmpty then (none, '.' :: rest) else (some digits, rest.dropWhile Char.isDigit)
  | t => (none, t)

def readExponent (t : Text) : Option Int × Text :=
  match t with
  | e :: rest =>
    if e = 'e' || e = 'E' then
      let (negative, rest') := match rest with
        | '-' :: r => (true, r)
        | '+' :: r => (false, r)
        | r => (false, r)
      let digits := rest'.takeWhile Char.isDigit
      if digits.isEmpty then (none, t)
      else
        let n := Int.ofNat (Text.valueIn 10 digits)
        (some (if negative then -n else n), rest'.dropWhile Char.isDigit)
    else (none, t)
  | [] => (none, [])

def readNumber (t : Text) : Except JsonFault (Value × Text) := do
  let (negative, body) := match t with
    | '-' :: rest => (true, rest)
    | _ => (false, t)
  let (whole, rest) ← orMalformed (readWhole body)
  let (fraction, rest) := readFraction rest
  let (exponent, rest) := readExponent rest
  if fraction.isNone && exponent.isNone then
    if Text.mostDigits < whole.length then throw (.longInteger whole.length)
    let n := Int.ofNat (Text.valueIn 10 whole)
    return (.int (if negative then -n else n), rest)
  else
    let fraction := fraction.getD []
    let digits := Text.valueIn 10 (whole ++ fraction)
    let scale := exponent.getD 0 - Int.ofNat fraction.length
    return (.number (.ofDecimal negative digits scale), rest)

def readWord (t : Text) : Option (Value × Text) :=
  let word (w : Text) (v : Value) : Option (Value × Text) := (Text.after? w t).map fun r ↦ (v, r)
  match word "null" .null, word "true" (.bool true), word "false" (.bool false),
    word "NaN" (.number .notANumber), word "Infinity" (.number (.infinite false)),
    word "-Infinity" (.number (.infinite true)) with
  | some r, _, _, _, _, _ => some r
  | _, some r, _, _, _, _ => some r
  | _, _, some r, _, _, _ => some r
  | _, _, _, some r, _, _ => some r
  | _, _, _, _, some r, _ => some r
  | _, _, _, _, _, r => r

def readQuotedWhole (t : Text) : Except JsonFault (List CodePoint × Text) :=
  orMalformed (readQuoted t.length t)

/-- The fields of an object while it is read. Keys are compared before their halves are written as
characters, so that different keys stay apart. -/
abbrev Members := List (List CodePoint × Value)

def ofMembers (members : Members) : Value :=
  .object (members.map fun m ↦ (CodePoint.toText m.1, m.2))

def deepest : Nat := 990

mutual

/-- A value at the beginning of a text, and what follows it. The first argument bounds the work, the
second is the depth that is left. -/
def readValue : Nat → Nat → Text → Except JsonFault (Value × Text)
  | 0, _, _ => .error .malformed
  | n + 1, depth, t =>
    match t with
    | [] => .error .malformed
    | c :: rest =>
      if c = '"' then (readQuotedWhole rest).map fun (s, r) ↦ (.text (CodePoint.toText s), r)
      else if c = Char.ofNat 123 then
        match depth, skipBlanks rest with
        | 0, _ => .error .deepObject
        | _, [] => .error .malformed
        | depth + 1, d :: rest' =>
          if d = Char.ofNat 125 then .ok (.object [], rest')
          else (readFields n depth (d :: rest') []).map fun (members, r) ↦ (ofMembers members, r)
      else if c = '[' then
        match depth, skipBlanks rest with
        | 0, _ => .error .deepList
        | _, [] => .error .malformed
        | depth + 1, d :: rest' =>
          if d = ']' then .ok (.list [], rest')
          else (readItems n depth (d :: rest')).map fun (items, r) ↦ (.list items, r)
      else match readWord t with
        | some r => .ok r
        | none => readNumber t

def readItems : Nat → Nat → Text → Except JsonFault (List Value × Text)
  | 0, _, _ => .error .malformed
  | n + 1, depth, t => do
    let (v, rest) ← readValue n depth t
    match skipBlanks rest with
    | ']' :: rest' => return ([v], rest')
    | ',' :: rest' =>
      let (vs, r) ← readItems n depth (skipBlanks rest')
      return (v :: vs, r)
    | _ => throw .malformed

def readFields : Nat → Nat → Text → Members → Except JsonFault (Members × Text)
  | 0, _, _, _ => .error .malformed
  | n + 1, depth, t, members =>
    match t with
    | '"' :: rest => do
      let (key, rest) ← readQuotedWhole rest
      match skipBlanks rest with
      | ':' :: rest =>
        let (v, rest) ← readValue n depth (skipBlanks rest)
        match skipBlanks rest with
        | c :: rest' =>
          if c = Char.ofNat 125 then return (Fields.putKey key v members, rest')
          else if c = ',' then readFields n depth (skipBlanks rest') (Fields.putKey key v members)
          else throw .malformed
        | [] => throw .malformed
      | _ => throw .malformed
    | _ => .error .malformed

end

def ofJson (t : Text) : Except JsonFault Value := do
  let (v, rest) ← readValue (2 * t.length + 2) deepest (skipBlanks t)
  if (skipBlanks rest).isEmpty then return v else throw .malformed

end Value

end SasMigration
