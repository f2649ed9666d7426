import SasMigration.Text.Basic

namespace SasMigration

/-- A finite number is `mantissa * 2 ^ exponent`, with a mantissa of 53 bits, or of fewer bits and
the least exponent. -/
inductive Binary
  | finite (negative : Bool) (mantissa : Nat) (exponent : Int)
  | infinite (negative : Bool)
  | notANumber
deriving DecidableEq, Repr

namespace Binary

def leastExponent : Int := -1074

def greatestExponent : Int := 971

def zero : Binary := .finite false 0 leastExponent

def powerQuotient (e : Int) : Nat × Nat :=
  match e with
  | .ofNat n => (Nat.pow 2 n, 1)
  | .negSucc n => (1, Nat.pow 2 (n + 1))

/-- The nearest natural number to a quotient; a half goes to the even neighbour. -/
def roundQuotient (num den : Nat) : Nat :=
  let q := num / den
  let twice := 2 * (num % den)
  if twice < den then q else if den < twice then q + 1 else if q % 2 = 0 then q else q + 1

/-- The greatest exponent `e` with `2 ^ 52 * 2 ^ e ≤ num / den`, but at least the least one. -/
def exponentOf (num den : Nat) : Int :=
  let guess : Int := Int.ofNat num.log2 - Int.ofNat den.log2 - 52
  let (p, q) := powerQuotient guess
  let e := if num * q < Nat.pow 2 52 * p * den then guess - 1 else guess
  max e leastExponent

/-- The number nearest to a quotient; a half goes to the even mantissa. -/
def ofQuotient (negative : Bool) (num den : Nat) : Binary :=
  if num = 0 then .finite negative 0 leastExponent
  else
    let e := exponentOf num den
    let (p, q) := powerQuotient e
    let m := roundQuotient (num * q) (den * p)
    let (m, e) := if m = Nat.pow 2 53 then (Nat.pow 2 52, e + 1) else (m, e)
    if greatestExponent < e then .infinite negative else .finite negative m e

def ofDecimal (negative : Bool) (digits : Nat) (exponent : Int) : Binary :=
  let size : Int := Int.ofNat (Nat.toDigits 10 digits).length + exponent
  if digits = 0 || size < -330 then .finite negative 0 leastExponent
  else if 310 < size then .infinite negative
  else match exponent with
    | .ofNat n => ofQuotient negative (digits * Nat.pow 10 n) 1
    | .negSucc n => ofQuotient negative digits (Nat.pow 10 (n + 1))

def scaled : Binary → Int
  | .finite negative m e =>
    let n := Int.ofNat (m * Nat.pow 2 (e - leastExponent).toNat)
    if negative then -n else n
  | _ => 0

def ofScaled (n : Int) : Binary :=
  let (p, q) := powerQuotient leastExponent
  ofQuotient (n < 0) (n.natAbs * p) q

def add (x y : Binary) : Binary :=
  match x, y with
  | .finite .., .finite .. => ofScaled (x.scaled + y.scaled)
  | .infinite a, .infinite b => if a = b then .infinite a else .notANumber
  | .infinite a, .finite .. => .infinite a
  | .finite .., .infinite b => .infinite b
  | _, _ => .notANumber

def neg : Binary → Binary
  | .finite negative m e => .finite (!negative) m e
  | .infinite negative => .infinite (!negative)
  | .notANumber => .notANumber

def ofInt (n : Int) : Binary := ofQuotient (n < 0) n.natAbs 1

def quadruple : Binary → Binary
  | .finite negative m e =>
    let (p, q) := powerQuotient e
    ofQuotient negative (4 * m * p) q
  | x => x

def truncate? : Binary → Option Int
  | .finite negative m e =>
    let n := match e with
      | .ofNat k => m * Nat.pow 2 k
      | .negSucc k => m / Nat.pow 2 (k + 1)
    some (if negative then -Int.ofNat n else Int.ofNat n)
  | _ => none

def isZero : Binary → Bool
  | .finite _ m _ => m == 0
  | _ => false

/-- A positive number `num / den` and the fractions `low / den` and `high / den` between which
everything rounds to it; `closed` says whether they do too. -/
structure Neighbourhood where
  num : Nat
  den : Nat
  low : Nat
  high : Nat
  closed : Bool

namespace Neighbourhood

def of (m : Nat) (e : Int) : Neighbourhood :=
  let (p, q) := powerQuotient (e - 2)
  let below := if m = Nat.pow 2 52 && leastExponent < e then 1 else 2
  { num := 4 * m * p, den := q, low := (4 * m - below) * p, high := (4 * m + 2) * p,
    closed := m % 2 == 0 }

def holds (v : Neighbourhood) (digits : Nat) (exponent : Int) : Bool :=
  let (p, q) := match exponent with
    | .ofNat n => (Nat.pow 10 n, 1)
    | .negSucc n => (1, Nat.pow 10 (n + 1))
  let d := digits * p * v.den
  if v.closed then v.low * q ≤ d && d ≤ v.high * q else v.low * q < d && d < v.high * q

def leading (v : Neighbourhood) : Int :=
  if v.den ≤ v.num then Int.ofNat (Nat.toDigits 10 (v.num / v.den)).length - 1
  else
    let inverse := (v.den + v.num - 1) / v.num
    0 - Int.ofNat (Nat.toDigits 10 (inverse - 1)).length

/-- The best decimal on the grid `10 ^ exponent`, if one reads back. -/
def onGrid? (v : Neighbourhood) (exponent : Int) : Option Nat :=
  let (num, den) := match exponent with
    | .ofNat n => (v.num, v.den * Nat.pow 10 n)
    | .negSucc n => (v.num * Nat.pow 10 (n + 1), v.den)
  let near := roundQuotient num den
  let below := num / den
  if v.holds near exponent then some near
  else if v.holds below exponent then some below
  else if v.holds (below + 1) exponent then some (below + 1)
  else none

def shortestFrom (v : Neighbourhood) : Nat → Int → Nat × Int
  | 0, exponent => ((v.onGrid? exponent).getD 0, exponent)
  | fuel + 1, exponent =>
    match v.onGrid? exponent with
    | some digits => (digits, exponent)
    | none => shortestFrom v fuel (exponent - 1)

end Neighbourhood

/-- The fewest digits that read back as `m * 2 ^ e`, and of those the nearest, without final
zeros. -/
def shortest (m : Nat) (e : Int) : Nat × Int :=
  let v := Neighbourhood.of m e
  let (digits, exponent) := v.shortestFrom 17 v.leading
  let zeros := ((Nat.toDigits 10 digits).reverse.takeWhile (· == '0')).length
  (digits / Nat.pow 10 zeros, exponent + Int.ofNat zeros)

/-- Positional notation with a point when the point falls at most sixteen digits after the first
digit or three zeros before it, else an exponent of at least two digits. -/
def decimalText (digits : Text) (exponent : Int) : Text :=
  let point : Int := Int.ofNat digits.length + exponent
  if -4 < point && point ≤ 16 then
    if point ≤ 0 then "0." ++ List.replicate (-point).toNat '0' ++ digits
    else if Int.ofNat digits.length ≤ point then
      digits ++ List.replicate exponent.toNat '0' ++ ".0"
    else digits.take point.toNat ++ '.' :: digits.drop point.toNat
  else
    let power := point - 1
    let size := Text.ofNat power.natAbs
    let size := if size.length < 2 then '0' :: size else size
    let fraction := digits.drop 1
    digits.take 1 ++ (if fraction.isEmpty then [] else '.' :: fraction) ++
      'e' :: (if power < 0 then '-' else '+') :: size

def text : Binary → Text
  | .finite negative m e =>
    let body : Text := if m = 0 then "0.0" else
      let (digits, exponent) := shortest m e
      decimalText (Text.ofNat digits) exponent
    if negative then '-' :: body else body
  | .infinite negative => if negative then "-inf" else "inf"
  | .notANumber => "nan"

end Binary

end SasMigration
