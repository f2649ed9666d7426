import SasMigration.Proofs.Conversion.Statement

namespace SasMigration.Requirements

open Imports (isModuleChar isModuleChar_of_isBlank)
open Text (isBlank)

variable {sep x y t m w g : Text} {c d : Char}

theorem piece_zero_cons (h : ¬ sep <+: c :: t) : piece 0 sep (c :: t) = c :: piece 0 sep t := by
  have hstarts : sep.isPrefixOf (c :: t) = false := by
    rw [Bool.eq_false_iff, ne_eq, List.isPrefixOf_iff_prefix]
    exact h
  rw [piece, piece, Text.splitOn, Text.splitOn, Text.splitFrom, hstarts]
  cases Text.splitFrom sep 0 t <;> rfl

theorem piece_zero_of_starts (hsep : sep ≠ []) (h : sep <+: t) : piece 0 sep t = [] := by
  cases t with
  | nil => exact absurd (List.prefix_nil.mp h) hsep
  | cons c t =>
    rw [piece, Text.splitOn, Text.splitFrom, List.isPrefixOf_iff_prefix.mpr h]
    rfl

theorem splitFrom_length (sep x t : Text) :
    Text.splitFrom sep x.length (x ++ t) = Text.splitFrom sep 0 t := by
  induction x with
  | nil => rfl
  | cons c x ih => exact ih

theorem piece_one (hsep : sep ≠ []) : piece 1 sep (sep ++ t) = piece 0 sep t := by
  obtain ⟨c, rest, rfl⟩ := List.exists_cons_of_ne_nil hsep
  have hstarts : (c :: rest).isPrefixOf (c :: (rest ++ t)) = true :=
    List.isPrefixOf_iff_prefix.mpr (List.prefix_append (c :: rest) t)
  rw [piece, piece, Text.splitOn, Text.splitOn, List.cons_append, Text.splitFrom, hstarts,
    List.length_cons, Nat.add_sub_cancel, splitFrom_length]
  rfl

theorem piece_char (c : Char) (t : Text) : piece 0 [c] t = t.takeWhile (· != c) := by
  induction t with
  | nil => rfl
  | cons d t ih =>
    by_cases hd : d = c
    · rw [piece_zero_of_starts (by simp) (by simp [hd]), List.takeWhile_cons_of_neg (by simp [hd])]
    · rw [piece_zero_cons (by simpa using Ne.symm hd),
        List.takeWhile_cons_of_pos (by simpa using hd), ih]

/-- No occurrence of `sep` begins within `x` where `y` follows. -/
def Clear (sep x y : Text) : Prop := ∀ b, b <:+ x → b ≠ [] → ¬ sep <+: b ++ y

theorem Clear.piece_zero (h : Clear sep x y) : piece 0 sep (x ++ y) = x ++ piece 0 sep y := by
  induction x with
  | nil => rfl
  | cons c x ih =>
    have hhere : ¬ sep <+: c :: (x ++ y) := h (c :: x) List.suffix_rfl (by simp)
    have htail : Clear sep x y := fun b hb ↦ h b (hb.trans (List.suffix_cons c x))
    rw [List.cons_append, piece_zero_cons hhere, ih htail, List.cons_append]

theorem clear_of_notMem (hsep : sep.head? = some c) (hc : c ∉ x) (y : Text) : Clear sep x y := by
  intro b hb hne hstarts
  obtain ⟨d, b, rfl⟩ := List.exists_cons_of_ne_nil hne
  obtain ⟨rest, hrest⟩ := List.head?_eq_some_iff.mp hsep
  rw [hrest, List.cons_append, List.cons_prefix_cons] at hstarts
  exact hc (hstarts.1 ▸ hb.subset List.mem_cons_self)

theorem piece_zero_of_notMem (hsep : sep.head? = some c) (hc : c ∉ x) : piece 0 sep x = x := by
  have h := (clear_of_notMem hsep hc []).piece_zero
  rwa [List.append_nil, show piece 0 sep [] = [] from rfl, List.append_nil] at h

theorem notMem_of_blank (hc : isBlank c = false) (hg : ∀ c ∈ g, isBlank c) : c ∉ g := by
  intro hmem
  rw [hg c hmem] at hc
  cases hc

theorem notMem_of_module (hc : isModuleChar c = false) (hm : ∀ c ∈ m, isModuleChar c) : c ∉ m := by
  intro hmem
  rw [hm c hmem] at hc
  cases hc

/-! A word with a space after it -/

def beforeWord (w t : Text) : Text := piece 0 (w ++ [' ']) t

theorem beforeWord_of_notMem (hw : w.head? = some c) (hc : c ∉ x) (y : Text) :
    beforeWord w (x ++ y) = x ++ beforeWord w y :=
  (clear_of_notMem (by rw [List.head?_append, hw, Option.some_or]) hc y).piece_zero

section WordSpace

variable (hm : ∀ c ∈ m, isModuleChar c) (hw : ∀ c ∈ w, isModuleChar c)
include hm hw

theorem eq_of_word_starts (hy : ∀ c, y.head? = some c → isModuleChar c = false)
    (h : w ++ [' '] <+: m ++ y) : m = w ∧ y.head? = some ' ' := by
  obtain ⟨z, hz⟩ := h
  rw [List.append_assoc] at hz
  obtain ⟨hmw, hy'⟩ := Text.eq_of_append_run hm hw hy (by rintro c ⟨⟩; decide) hz.symm
  exact ⟨hmw, by rw [hy']; rfl⟩

theorem beforeWord_append (hy : ∀ c, y.head? = some c → isModuleChar c = false)
    (h : ¬ (w <:+ m ∧ y.head? = some ' ')) : beforeWord w (m ++ y) = m ++ beforeWord w y := by
  apply Clear.piece_zero
  intro b hb _ hstarts
  obtain ⟨rfl, hspace⟩ := eq_of_word_starts (fun c hc ↦ hm c (hb.subset hc)) hw hy hstarts
  exact h ⟨hb, hspace⟩

theorem beforeWord_of_suffix (hy : y.head? = some ' ') : beforeWord w (m ++ (w ++ y)) = m := by
  obtain ⟨z, rfl⟩ := List.head?_eq_some_iff.mp hy
  have hclear : Clear (w ++ [' ']) m (w ++ ' ' :: z) := by
    intro b hb hne hstarts
    have hbw : ∀ c ∈ b ++ w, isModuleChar c := by
      intro c hc
      rcases List.mem_append.mp hc with hc | hc
      · exact hm c (hb.subset hc)
      · exact hw c hc
    rw [← List.append_assoc] at hstarts
    obtain ⟨heq, -⟩ := eq_of_word_starts hbw hw (by rintro c ⟨⟩; decide) hstarts
    exact hne (List.append_left_eq_self.mp heq)
  rw [beforeWord, hclear.piece_zero, piece_zero_of_starts (by simp) (by simp), List.append_nil]

end WordSpace

/-! A word with a space before it -/

def beforeSpace (w t : Text) : Text := piece 0 (' ' :: w) t

theorem beforeSpace_of_notMem (hx : ' ' ∉ x) (y : Text) :
    beforeSpace w (x ++ y) = x ++ beforeSpace w y := (clear_of_notMem rfl hx y).piece_zero

section SpaceWord

variable (hg : ∀ c ∈ g, isBlank c) (hw : w.head? = some d) (hd : isBlank d = false)
include hg hw hd

theorem beforeSpace_append (h : ¬ (g.getLast? = some ' ' ∧ w <+: y)) :
    beforeSpace w (g ++ y) = g ++ beforeSpace w y := by
  obtain ⟨rest, rfl⟩ := List.head?_eq_some_iff.mp hw
  apply Clear.piece_zero
  intro b hb hne hstarts
  obtain ⟨c, b, rfl⟩ := List.exists_cons_of_ne_nil hne
  obtain ⟨rfl, hword⟩ := List.cons_prefix_cons.mp hstarts
  cases b with
  | nil =>
    obtain ⟨u, rfl⟩ := hb
    exact h ⟨by simp, hword⟩
  | cons e b =>
    -- the word would begin with a blank
    have he := hg e (hb.subset (by simp))
    rw [← (List.cons_prefix_cons.mp hword).1, hd] at he
    cases he

theorem beforeSpace_of_last (hlast : g.getLast? = some ' ') (hy : w <+: y) :
    beforeSpace w (g ++ y) = g.dropLast := by
  obtain ⟨rest, rfl⟩ := List.head?_eq_some_iff.mp hw
  obtain ⟨u, rfl⟩ := List.getLast?_eq_some_iff.mp hlast
  have hu : ∀ c ∈ u, isBlank c := fun c hc ↦ hg c (List.mem_append_left _ hc)
  have hspace : ¬ (u.getLast? = some ' ' ∧ d :: rest <+: [' '] ++ y) := by
    rintro ⟨-, hstarts⟩
    rw [(List.cons_prefix_cons.mp hstarts).1] at hd
    revert hd
    decide
  have hcut : beforeSpace (d :: rest) ([' '] ++ y) = [] :=
    piece_zero_of_starts (by simp) (List.cons_prefix_cons.mpr ⟨rfl, hy⟩)
  rw [List.append_assoc, beforeSpace_append hu rfl hd hspace, hcut, List.append_nil,
    List.dropLast_concat]

end SpaceWord

end SasMigration.Requirements
