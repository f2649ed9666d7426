import Mathlib.Tactic.Common
import SasMigration.Files.Tree

namespace SasMigration

namespace Utf8

theorem toNat_ofNat {n : Nat} (h : n < 256) : (UInt8.ofNat n).toNat = n := by
  rw [UInt8.toNat_ofNat', Nat.mod_eq_of_lt h]

variable {position v : Nat} {rest : List UInt8}

theorem continued_cons {byte start value taken n : Nat} {range : Nat × Nat}
    {ranges : List (Nat × Nat)} (hn : n < 256) (h : range.1 ≤ n ∧ n ≤ range.2) :
    continued byte start value taken (range :: ranges) (UInt8.ofNat n :: rest) =
      continued byte start (value * 64 + n % 64) (taken + 1) ranges rest := by
  rw [continued, toNat_ofNat hn, if_pos h]

theorem codeAt_one (h : v ≤ 0x7f) : codeAt position v rest = .ok (v, 1) := by
  rw [codeAt, if_pos (by omega)]

theorem codeAt_two (hlow : 0x7f < v) (hhigh : v ≤ 0x7ff) :
    codeAt position (v / 64 % 32 + 192) (UInt8.ofNat (v % 64 + 128) :: rest) = .ok (v, 2) := by
  rw [codeAt, if_neg (by omega), if_neg (by omega), if_pos (by omega), anyRange,
    continued_cons (by omega) ⟨by omega, by omega⟩, continued]
  congr 2
  omega

theorem codeAt_three (hlow : 0x7ff < v) (hhigh : v ≤ 0xffff) (hvalid : v < 0xd800 ∨ 0xdfff < v) :
    codeAt position (v / 4096 % 16 + 224)
      (UInt8.ofNat (v / 64 % 64 + 128) :: UInt8.ofNat (v % 64 + 128) :: rest) = .ok (v, 3) := by
  -- the second byte keeps away from short forms and from surrogates
  rw [codeAt, if_neg (by omega), if_neg (by omega), if_neg (by omega), if_pos (by omega)]
  dsimp only
  rw [continued_cons (by omega), anyRange, continued_cons (by omega) ⟨by omega, by omega⟩,
    continued]
  · congr 2
    omega
  · split
    · exact ⟨by omega, by omega⟩
    · split
      · exact ⟨by omega, by omega⟩
      · exact ⟨by rw [anyRange]; omega, by rw [anyRange]; omega⟩

theorem codeAt_four (hlow : 0xffff < v) (hhigh : v < 0x110000) :
    codeAt position (v / 262144 % 8 + 240)
      (UInt8.ofNat (v / 4096 % 64 + 128) :: UInt8.ofNat (v / 64 % 64 + 128) ::
        UInt8.ofNat (v % 64 + 128) :: rest) = .ok (v, 4) := by
  rw [codeAt, if_neg (by omega), if_neg (by omega), if_neg (by omega), if_neg (by omega),
    if_pos (by omega)]
  dsimp only
  rw [continued_cons (by omega), anyRange, continued_cons (by omega) ⟨by omega, by omega⟩,
    continued_cons (by omega) ⟨by omega, by omega⟩, continued]
  · congr 2
    omega
  · split
    · exact ⟨by omega, by omega⟩
    · split
      · exact ⟨by omega, by omega⟩
      · exact ⟨by rw [anyRange]; omega, by rw [anyRange]; omega⟩

theorem decodeFrom_cons {c : Char} {n size : Nat} (hn : n < 256)
    (h : codeAt position n rest = .ok (c.toNat, size)) :
    decodeFrom 0 position (UInt8.ofNat n :: rest) =
      (decodeFrom (size - 1) (position + 1) rest).map (c :: ·) := by
  rw [decodeFrom, toNat_ofNat hn, h]
  dsimp only
  rw [Char.ofNat_toNat]

theorem decodeFrom_encodeChar (c : Char) (position : Nat) (rest : List UInt8) :
    ∃ next, decodeFrom 0 position (String.utf8EncodeChar c ++ rest) =
      (decodeFrom 0 next rest).map (c :: ·) := by
  have hvalid : c.toNat < 0xd800 ∨ 0xdfff < c.toNat ∧ c.toNat < 0x110000 := c.valid
  rw [show String.utf8EncodeChar c = if c.toNat ≤ 127 then _ else if c.toNat ≤ 2047 then _
    else if c.toNat ≤ 65535 then _ else _ from rfl]
  by_cases h₁ : c.toNat ≤ 127
  · rw [if_pos h₁]
    exact ⟨_, decodeFrom_cons (by omega) (codeAt_one h₁)⟩
  rw [if_neg h₁]
  by_cases h₂ : c.toNat ≤ 2047
  · rw [if_pos h₂]
    exact ⟨_, decodeFrom_cons (by omega) (codeAt_two (by omega) h₂)⟩
  rw [if_neg h₂]
  by_cases h₃ : c.toNat ≤ 65535
  · rw [if_pos h₃]
    exact ⟨_, decodeFrom_cons (by omega) (codeAt_three (by omega) h₃ (by omega))⟩
  · rw [if_neg h₃]
    exact ⟨_, decodeFrom_cons (by omega) (codeAt_four (by omega) (by omega))⟩

theorem decode_encode (t : Text) : decode (encode t) = .ok t := by
  suffices h : ∀ position, decodeFrom 0 position (encode t) = .ok t from h 0
  induction t with
  | nil => intro position; rfl
  | cons c t ih =>
    intro position
    obtain ⟨next, hnext⟩ := decodeFrom_encodeChar c position (encode t)
    rw [encode, List.flatMap_cons]
    rw [encode] at hnext ih
    rw [hnext, ih next]
    rfl

end Utf8

namespace FileTree

theorem unifyLines_eq_self {t : Text} (h : '\r' ∉ t) : unifyLines t = t := by
  induction t with
  | nil => rfl
  | cons c t ih =>
    rw [List.mem_cons, not_or] at h
    have hc : c ≠ '\r' := Ne.symm h.1
    rw [unifyLines, ih h.2]
    · rintro _ rfl; exact absurd rfl hc
    · rintro rfl; exact absurd rfl hc

theorem textAt_eq_ok {t : FileTree} {path text : Text} (h : '\r' ∉ text)
    (hbytes : t.bytesAt path = .ok (Utf8.encode text)) : t.textAt path = .ok text := by
  simp only [textAt, hbytes, bind, Except.bind, Utf8.decode_encode, unifyLines_eq_self h]
  rfl

end FileTree

end SasMigration
