import Mathlib.Data.Nat.Digits.Defs
import SasMigration.Proofs.Value.Token
import SasMigration.Value.Writer

namespace SasMigration.Value

variable {c : Char} {rest : Text}

def isNumberChar (c : Char) : Bool := c.isDigit || c == '.' || c == 'e' || c == 'E'

theorem isNumberChar_eq_false (h : isNumberChar c = false) :
    c.isDigit = false ∧ c ≠ '.' ∧ c ≠ 'e' ∧ c ≠ 'E' := by
  simpa [isNumberChar, and_assoc] using h

/-- The rest of a text does not go on with a number. -/
def EndsNumber (rest : Text) : Prop := ∀ c, rest.head? = some c → isNumberChar c = false

theorem isDigit_of_mem_ofNat {n : Nat} (h : c ∈ Text.ofNat n) : c.isDigit :=
  Nat.isDigit_of_mem_toDigits (by decide) (by decide) h

theorem hexValue?_of_isDigit (h : c.isDigit) : Text.hexValue? c = some (c.toNat - '0'.toNat) :=
  if_pos h

theorem valueIn_ofNat (n : Nat) : Text.valueIn 10 (Text.ofNat n) = n := by
  have hdigits : ∀ t : Text, (∀ c ∈ t, c.isDigit) → ∀ m,
      t.foldl (fun n c ↦ n * 10 + (Text.hexValue? c).getD 0) m = Nat.ofDigitChars 10 t m := by
    intro t
    induction t with
    | nil => intro _ m; rfl
    | cons c t ih =>
      intro ht m
      rw [List.foldl_cons, ih fun d hd ↦ ht d (List.mem_cons_of_mem c hd),
        hexValue?_of_isDigit (ht c List.mem_cons_self), Option.getD_some, Nat.mul_comm,
        Nat.ofDigitChars_eq_foldl, Nat.ofDigitChars_eq_foldl, List.foldl_cons]
  rw [Text.valueIn, hdigits _ fun _ ↦ isDigit_of_mem_ofNat, Text.ofNat,
    Nat.ofDigitChars_ten_toDigits]

theorem head?_ofNat_ne {n : Nat} (h : 0 < n) : (Text.ofNat n).head? ≠ some '0' := by
  have hdigit : ∀ m < 10, 0 < m → [Nat.digitChar m].head? ≠ some '0' := by decide
  induction n using Nat.strongRecOn with
  | ind n ih =>
    rw [Text.ofNat]
    by_cases hn : n < 10
    · rw [Nat.toDigits_of_lt_base hn]
      exact hdigit n hn h
    · rw [Nat.toDigits_of_base_le (by decide) (Nat.le_of_not_lt hn)]
      have hfront := ih (n / 10) (Nat.div_lt_self h (by decide)) (by omega)
      rw [Text.ofNat] at hfront
      rwa [List.head?_append_of_ne_nil _ Nat.toDigits_ne_nil]

theorem readWhole_ofNat (n : Nat) (h : EndsNumber rest) :
    readWhole (Text.ofNat n ++ rest) = some (Text.ofNat n, rest) := by
  rcases Nat.eq_zero_or_pos n with rfl | hn
  · rfl
  · cases hdigits : Text.ofNat n with
    | nil => exact absurd hdigits Nat.toDigits_ne_nil
    | cons c digits =>
      have hall : ∀ d ∈ c :: digits, d.isDigit := fun d hd ↦
        isDigit_of_mem_ofNat (hdigits ▸ hd : d ∈ Text.ofNat n)
      have hzero : c ≠ '0' := fun hc ↦ head?_ofNat_ne hn (by rw [hdigits, hc]; rfl)
      have hrun : ∀ d ∈ digits, d.isDigit := fun d hd ↦ hall d (List.mem_cons_of_mem c hd)
      have hstop : rest.takeWhile Char.isDigit = [] ∧ rest.dropWhile Char.isDigit = rest := by
        cases rest with
        | nil => exact ⟨rfl, rfl⟩
        | cons d rest => simp [(isNumberChar_eq_false (h d rfl)).1]
      rw [List.cons_append, readWhole, if_neg hzero, if_pos (hall c List.mem_cons_self),
        List.takeWhile_append_of_pos hrun, List.dropWhile_append_of_pos hrun, hstop.1, hstop.2,
        List.append_nil]

theorem readUnsigned_ofNat (negative : Bool) {n : Nat}
    (hn : (Text.ofNat n).length ≤ Text.mostDigits) (h : EndsNumber rest) :
    readUnsigned negative (Text.ofNat n ++ rest) =
      .ok (.int (if negative then -Int.ofNat n else Int.ofNat n), rest) := by
  have hfraction : readFraction rest = (none, rest) :=
    readFraction_of_ne fun hc ↦ (isNumberChar_eq_false (h '.' hc)).2.1 rfl
  have hexponent : readExponent rest = (none, rest) :=
    readExponent_of_ne fun e he ↦ (isNumberChar_eq_false (h e he)).2.2
  rw [readUnsigned, readWhole_ofNat n h]
  simp only [orMalformed, Except.bind, hfraction, hexponent, numberOf, Option.isNone_none,
    Bool.and_self, if_true, if_neg (Nat.not_lt.mpr hn), signedValue, valueIn_ofNat]
  rfl

theorem ofInt_cases (n : Int) :
    (∃ m, n = Int.ofNat m ∧ Text.ofInt n = Text.ofNat m) ∨
      ∃ m, n = -Int.ofNat m ∧ Text.ofInt n = '-' :: Text.ofNat m := by
  cases n with
  | ofNat m => exact .inl ⟨m, rfl, rfl⟩
  | negSucc m => exact .inr ⟨m + 1, rfl, rfl⟩

theorem exists_ofNat_eq_cons (n : Nat) :
    ∃ c t, Text.ofNat n = c :: t ∧ c.isDigit := by
  cases hdigits : Text.ofNat n with
  | nil => exact absurd hdigits Nat.toDigits_ne_nil
  | cons c t =>
    have hmem : c ∈ Text.ofNat n := hdigits ▸ List.mem_cons_self
    exact ⟨c, t, rfl, isDigit_of_mem_ofNat hmem⟩

theorem exists_ofInt_eq_cons (n : Int) : ∃ c t, Text.ofInt n = c :: t ∧
    c ∈ '-' :: "0123456789".toList := by
  rcases ofInt_cases n with ⟨m, -, htext⟩ | ⟨m, -, htext⟩
  · obtain ⟨c, t, hcons, hc⟩ := exists_ofNat_eq_cons m
    exact ⟨c, t, htext.trans hcons, List.mem_cons_of_mem _ (isDigit_cases hc)⟩
  · exact ⟨'-', _, htext, List.mem_cons_self⟩

theorem readNumber_ofInt {n : Int} (hn : (Text.ofNat n.natAbs).length ≤ Text.mostDigits)
    (h : EndsNumber rest) : readNumber (Text.ofInt n ++ rest) = .ok (.int n, rest) := by
  rw [readNumber_eq]
  rcases ofInt_cases n with ⟨m, rfl, htext⟩ | ⟨m, rfl, htext⟩
  · obtain ⟨c, t, hcons, hc⟩ := exists_ofNat_eq_cons m
    have hsign : signed numberSigns (Text.ofNat m ++ rest) = (false, Text.ofNat m ++ rest) := by
      refine signed_numberSigns fun hminus ↦ ?_
      rw [hcons] at hminus
      cases hminus
      cases hc
    rw [htext, hsign]
    exact readUnsigned_ofNat false hn h
  · rw [htext]
    rw [Int.natAbs_neg] at hn
    exact readUnsigned_ofNat true hn h

theorem readWord_ofInt (n : Int) (rest : Text) : readWord (Text.ofInt n ++ rest) = none := by
  have hwords : (words.all fun w ↦ w.1.head?.any fun c ↦ !c.isDigit &&
      (c != '-' || w.1.tail.head?.any fun d ↦ !d.isDigit)) = true := by decide
  rw [readWord_eq, List.findSome?_eq_none_iff]
  rintro ⟨word, v⟩ hword
  have hw := List.all_eq_true.mp hwords _ hword
  rw [Option.map_eq_none_iff, Option.eq_none_iff_forall_ne_some]
  intro left hleft
  rw [after?_eq_some] at hleft
  cases word with
  | nil => cases hw
  | cons c word =>
    rw [List.head?_cons, Option.any_some, Bool.and_eq_true, Bool.not_eq_true'] at hw
    rcases ofInt_cases n with ⟨m, -, htext⟩ | ⟨m, -, htext⟩ <;>
      obtain ⟨d, t, hcons, hd⟩ := exists_ofNat_eq_cons m
    · rw [htext, hcons] at hleft
      obtain ⟨rfl, -⟩ := List.cons.inj hleft
      exact Bool.false_ne_true (hw.1.symm.trans hd)
    · rw [htext, hcons] at hleft
      obtain ⟨rfl, htail⟩ := List.cons.inj hleft
      cases word with
      | nil => cases hw.2
      | cons e word =>
        obtain ⟨rfl, -⟩ := List.cons.inj htail
        have he : d.isDigit = false := by simpa using hw.2
        exact Bool.false_ne_true (he.symm.trans hd)

theorem readValue_int {n : Int} (hn : (Text.ofNat n.natAbs).length ≤ Text.mostDigits)
    (h : EndsNumber rest) (work depth : Nat) :
    readValue (work + 1) depth (Text.ofInt n ++ rest) = .ok (.int n, rest) := by
  have hword := readWord_ofInt n rest
  have hnumber := readNumber_ofInt hn h
  obtain ⟨c, t, hcons, hmem⟩ := exists_ofInt_eq_cons n
  have hfirst : (('-' :: "0123456789".toList).all fun d ↦
      d != '"' && (d != Char.ofNat 123 && d != '[')) = true := by decide
  have hc := List.all_eq_true.mp hfirst c hmem
  rw [Bool.and_eq_true, Bool.and_eq_true, bne_iff_ne, bne_iff_ne, bne_iff_ne] at hc
  rw [hcons, List.cons_append] at hword hnumber ⊢
  rw [readValue.eq_def]
  dsimp only
  rw [if_neg hc.1, if_neg hc.2.1, if_neg hc.2.2, hword]
  exact hnumber

end SasMigration.Value
