import SasMigration.Fault

namespace SasMigration.Utf8

def encode (t : Text) : List UInt8 := t.flatMap String.utf8EncodeChar

/-- Reads the bytes that continue a character. Each lies in a range of its own; `taken` bytes of
the character, which starts at `start` with `byte`, were read before. -/
def continued (byte start value taken : Nat) :
    List (Nat × Nat) → List UInt8 → Except DecodeFault (Nat × Nat)
  | [], _ => .ok (value, taken)
  | _ :: _, [] => .error (.cutOff byte start (start + taken))
  | (low, high) :: ranges, b :: bytes =>
    if low ≤ b.toNat ∧ b.toNat ≤ high then
      continued byte start (value * 64 + b.toNat % 64) (taken + 1) ranges bytes
    else .error (.badContinuation byte start (start + taken))

def anyRange : Nat × Nat := (0x80, 0xbf)

def codeAt (start : Nat) (b : Nat) (rest : List UInt8) : Except DecodeFault (Nat × Nat) :=
  if b < 0x80 then .ok (b, 1)
  else if b < 0xc2 then .error (.badStart b start)
  else if b < 0xe0 then continued b start (b % 32) 1 [anyRange] rest
  else if b < 0xf0 then
    let second := if b = 0xe0 then (0xa0, 0xbf) else if b = 0xed then (0x80, 0x9f) else anyRange
    continued b start (b % 16) 1 [second, anyRange] rest
  else if b < 0xf5 then
    let second := if b = 0xf0 then (0x90, 0xbf) else if b = 0xf4 then (0x80, 0x8f) else anyRange
    continued b start (b % 8) 1 [second, anyRange, anyRange] rest
  else .error (.badStart b start)

def decodeFrom : Nat → Nat → List UInt8 → Except DecodeFault Text
  | _, _, [] => .ok []
  | skip + 1, position, _ :: rest => decodeFrom skip (position + 1) rest
  | 0, position, b :: rest =>
    match codeAt position b.toNat rest with
    | .error fault => .error fault
    | .ok (code, size) =>
      (decodeFrom (size - 1) (position + 1) rest).map (Char.ofNat code :: ·)

def decode (bytes : List UInt8) : Except DecodeFault Text := decodeFrom 0 0 bytes

def escaped (b : UInt8) : Text := "\\x" ++ Text.hexDigits 2 b.toNat

def faultSize : DecodeFault → Nat
  | .badStart _ _ => 1
  | .badContinuation _ start stop | .cutOff _ start stop => stop - start

/-- Like reading, with the bytes that are no character written by their numbers; `escaping` of the
bytes still to be passed over belong to a fault. -/
def showFrom (escaping : Bool) : Nat → List UInt8 → Text
  | _, [] => []
  | skip + 1, b :: rest => (if escaping then escaped b else []) ++ showFrom escaping skip rest
  | 0, b :: rest =>
    match codeAt 0 b.toNat rest with
    | .error fault => escaped b ++ showFrom true (faultSize fault - 1) rest
    | .ok (code, size) => Char.ofNat code :: showFrom false (size - 1) rest

def display (bytes : List UInt8) : Text := showFrom false 0 bytes

end SasMigration.Utf8
