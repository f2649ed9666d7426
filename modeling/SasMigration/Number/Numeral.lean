import SasMigration.Text.Alphabet

namespace SasMigration

/-- Why a text is no integer. -/
inductive NumeralFault
  | malformed
  | tooLong (digits : Nat)
deriving DecidableEq, Repr

namespace Text

/-- The most digits that an integer may have, zeros in front included. -/
def mostDigits : Nat := 4300

def tooManyDigits (count : Nat) : Text :=
  "Exceeds the limit (" ++ ofNat mostDigits ++ " digits) for integer string conversion: value has " ++
    ofNat count ++ " digits; use sys.set_int_max_str_digits() to increase the limit"

def digitsValue (digits : Text) : Nat :=
  digits.foldl (fun n c ↦ 10 * n + (digitValue? c).getD 0) 0

/-- The digits at the beginning of a text, less single underscores between them, and what follows
them. -/
def digitRun : Text → Text × Text
  | [] => ([], [])
  | '_' :: c :: rest =>
    if isDigit c then
      let (digits, rest) := digitRun rest
      (c :: digits, rest)
    else ([], '_' :: c :: rest)
  | c :: rest =>
    if isDigit c then
      let (digits, rest) := digitRun rest
      (c :: digits, rest)
    else ([], c :: rest)

/-- Digits alone; the limit is looked at before what follows them. -/
def readNat (t : Text) : Except NumeralFault Nat :=
  let (digits, rest) := digitRun t
  if digits.isEmpty || t.head? = some '_' || rest.head? = some '_' then .error .malformed
  else if mostDigits < digits.length then .error (.tooLong digits.length)
  else if rest.isEmpty then .ok (digitsValue digits)
  else .error .malformed

/-- Blanks that may stand around an integer: all but the four that separate records. -/
def isMargin (c : Char) : Bool := isBlank c && !(0x1c ≤ c.toNat && c.toNat ≤ 0x1f)

def stripMargins (t : Text) : Text :=
  ((t.dropWhile isMargin).reverse.dropWhile isMargin).reverse

def readInt (t : Text) : Except NumeralFault Int :=
  match stripMargins t with
  | '-' :: rest => (readNat rest).map fun n ↦ -Int.ofNat n
  | '+' :: rest => (readNat rest).map Int.ofNat
  | rest => (readNat rest).map Int.ofNat

def readInt? (t : Text) : Option Int := (readInt t).toOption

end Text

end SasMigration
