import Mathlib.Data.List.DropRight
import Mathlib.Data.List.Infix
import Mathlib.Tactic.Common
import SasMigration.Text.Blank

namespace SasMigration.Text

variable {s t line : Text} {ls : List Text}

theorem lines_newline (t : Text) : lines ('\n' :: t) = [] :: lines t := by
  rw [lines, if_pos rfl]

theorem lines_ne_nil (t : Text) : lines t ≠ [] := by
  cases t with
  | nil => simp [lines]
  | cons c rest =>
    rw [lines]
    split
    · simp
    · split <;> simp

theorem exists_lines_cons {c : Char} (hc : c ≠ '\n') (t : Text) :
    ∃ line more, lines t = line :: more ∧ lines (c :: t) = (c :: line) :: more := by
  obtain ⟨line, more, h⟩ := List.exists_cons_of_ne_nil (lines_ne_nil t)
  refine ⟨line, more, h, ?_⟩
  rw [lines, if_neg hc, h]

theorem lines_append_newline (s t : Text) : lines (s ++ '\n' :: t) = lines s ++ lines t := by
  induction s with
  | nil => exact lines_newline t
  | cons c s ih =>
    by_cases hc : c = '\n'
    · rw [hc, List.cons_append, lines_newline, ih, lines_newline, List.cons_append]
    · obtain ⟨line, more, hs, hcs⟩ := exists_lines_cons hc s
      obtain ⟨line', more', hst, hcst⟩ := exists_lines_cons hc (s ++ '\n' :: t)
      rw [ih, hs, List.cons_append, List.cons.injEq] at hst
      rw [List.cons_append, hcst, hcs, ← hst.1, ← hst.2, List.cons_append]

theorem notMem_of_mem_lines (h : line ∈ lines t) : '\n' ∉ line := by
  induction t generalizing line with
  | nil =>
    rw [List.mem_singleton.mp h]
    exact List.not_mem_nil
  | cons c t ih =>
    by_cases hc : c = '\n'
    · rw [hc, lines_newline, List.mem_cons] at h
      rcases h with rfl | h
      · exact List.not_mem_nil
      · exact ih h
    · obtain ⟨first, more, ht, hct⟩ := exists_lines_cons hc t
      rw [hct, List.mem_cons] at h
      rcases h with rfl | h
      · have hfirst : '\n' ∉ first := ih (ht ▸ List.mem_cons_self)
        simp [hfirst, Ne.symm hc]
      · exact ih (ht ▸ List.mem_cons_of_mem _ h)

theorem lines_of_notMem (h : '\n' ∉ t) : lines t = [t] := by
  induction t with
  | nil => rfl
  | cons c t ih =>
    rw [List.mem_cons, not_or] at h
    rw [lines, if_neg (Ne.symm h.1), ih h.2]

theorem unlines_cons_cons (s t : Text) (ls : List Text) :
    unlines (s :: t :: ls) = s ++ '\n' :: unlines (t :: ls) := by
  rw [unlines, join, List.intercalate_cons_cons, List.append_assoc, List.singleton_append]
  rfl

theorem lines_unlines_of_ne_nil (h : ls ≠ []) : lines (unlines ls) = ls.flatMap lines := by
  induction ls with
  | nil => exact absurd rfl h
  | cons line ls ih =>
    cases ls with
    | nil => rw [unlines, join, List.intercalate_singleton, List.flatMap_singleton]
    | cons next ls =>
      rw [List.flatMap_cons, ← ih (List.cons_ne_nil _ _), unlines_cons_cons, lines_append_newline]

theorem lines_unlines (h : ∀ line ∈ ls, '\n' ∉ line) :
    lines (unlines ls) = if ls = [] then [[]] else ls := by
  split
  · next hnil =>
    rw [hnil]
    rfl
  · next hne =>
    have hlines := List.flatMap_congr fun line hline ↦ lines_of_notMem (h line hline)
    rw [lines_unlines_of_ne_nil hne, hlines, List.flatMap_singleton']

theorem mem_unlines {c : Char} (hc : c ≠ '\n') : c ∈ unlines ls ↔ ∃ s ∈ ls, c ∈ s := by
  induction ls with
  | nil => simp [unlines, join]
  | cons line ls ih =>
    cases ls with
    | nil => simp [unlines, join]
    | cons next ls =>
      rw [unlines_cons_cons, List.mem_append, List.mem_cons, or_iff_right hc, ih]
      simp only [List.exists_mem_cons_iff]

theorem exists_lines_append (h : '\n' ∉ s) (t : Text) :
    ∃ line more, lines t = line :: more ∧ lines (s ++ t) = (s ++ line) :: more := by
  induction s with
  | nil =>
    obtain ⟨line, more, ht⟩ := List.exists_cons_of_ne_nil (lines_ne_nil t)
    exact ⟨line, more, ht, ht⟩
  | cons c s ih =>
    rw [List.mem_cons, not_or] at h
    obtain ⟨line, more, ht, hst⟩ := ih h.2
    obtain ⟨line', more', hst', hcst⟩ := exists_lines_cons (Ne.symm h.1) (s ++ t)
    obtain ⟨rfl, rfl⟩ := List.cons.inj (hst.symm.trans hst')
    exact ⟨line, _, ht, hcst⟩

theorem lines_append_gap (s t : Text) :
    lines (s ++ "\n\n".toList ++ t) = lines s ++ [] :: lines t := by
  rw [List.append_assoc]
  exact (lines_append_newline s ('\n' :: t)).trans (by rw [lines_newline])

theorem isBlank_of_mem_nil : ∀ c ∈ ([] : Text), isBlank c := List.forall_mem_nil _

theorem isBlank_of_mem_space : ∀ c ∈ [' '], isBlank c := List.forall_mem_singleton.mpr rfl

theorem strip_infix (t : Text) : strip t <:+: t :=
  (List.rdropWhile_prefix isBlank (stripLeft t)).isInfix.trans
    (List.dropWhile_suffix isBlank).isInfix

theorem stripLeft_eq_self (h : ∀ c, t.head? = some c → isBlank c = false) : stripLeft t = t := by
  cases t with
  | nil => rfl
  | cons c t => rw [stripLeft, List.dropWhile_cons_of_neg (by simp [h c rfl])]

theorem strip_append_of_blank {x y : Text} (h : ∀ c ∈ x, isBlank c) : strip (x ++ y) = strip y := by
  rw [strip, strip, stripLeft, stripLeft, List.dropWhile_append_of_pos h]

theorem strip_of_blank (h : ∀ c ∈ t, isBlank c) : strip t = [] := by
  rw [← List.append_nil t, strip_append_of_blank h]
  rfl

theorem stripRight_of_blank (h : ∀ c ∈ t, isBlank c) : stripRight t = [] := by
  rw [stripRight, List.dropWhile_eq_nil_iff.mpr (by simpa using h)]
  rfl

theorem stripRight_append {x : Text} {c : Char} (hlast : x.getLast? = some c)
    (hc : isBlank c = false) (t : Text) : stripRight (x ++ t) = x ++ stripRight t := by
  obtain ⟨u, rfl⟩ := List.getLast?_eq_some_iff.mp hlast
  rw [stripRight, stripRight, List.reverse_append, List.dropWhile_append]
  split
  · next hempty =>
    rw [List.isEmpty_iff.mp hempty]
    simp [hc]
  · simp

theorem strip_between {x y : Text} (hx : ∀ c ∈ x, isBlank c) (hy : ∀ c ∈ y, isBlank c)
    (hhead : ∀ c, t.head? = some c → isBlank c = false)
    (hlast : ∀ c, t.getLast? = some c → isBlank c = false) : strip (x ++ (t ++ y)) = t := by
  rw [strip_append_of_blank hx]
  cases hd : t.getLast? with
  | none =>
    rw [List.getLast?_eq_none_iff.mp hd]
    exact strip_of_blank hy
  | some d =>
    have hleft : stripLeft (t ++ y) = t ++ y := by
      apply stripLeft_eq_self
      intro c hc
      rw [List.head?_append_of_ne_nil _ (by rintro rfl; cases hd)] at hc
      exact hhead c hc
    rw [strip, hleft, stripRight_append hd (hlast d hd), stripRight_of_blank hy, List.append_nil]

theorem strip_eq_self (h : ∀ c ∈ t, isBlank c = false) : strip t = t := by
  have hleft : stripLeft t = t := stripLeft_eq_self fun c hc ↦ h c (List.mem_of_mem_head? hc)
  have hright : stripLeft t.reverse = t.reverse :=
    stripLeft_eq_self fun c hc ↦ h c (List.mem_reverse.mp (List.mem_of_mem_head? hc))
  rw [strip, hleft, stripRight, ← stripLeft, hright, List.reverse_reverse]

theorem isBlank_of_getLast?_strip {c : Char} (h : (strip t).getLast? = some c) :
    isBlank c = false := by
  rw [strip, stripRight, List.getLast?_reverse] at h
  have hhead := List.head?_dropWhile_not isBlank (stripLeft t).reverse
  rw [h] at hhead
  simpa using hhead

theorem strip_strip (t : Text) : strip (strip t) = strip t := by
  have hleft : stripLeft (strip t) = strip t := by
    refine stripLeft_eq_self fun c hc ↦ ?_
    -- what is left begins as it did before its end was stripped
    obtain ⟨rest, hrest⟩ := List.rdropWhile_prefix isBlank (stripLeft t)
    have hhead : (stripLeft t).head? = some c := by
      rw [← hrest, List.head?_append,
        show (List.rdropWhile isBlank (stripLeft t)).head? = _ from hc,
        Option.some_or]
    have hblank := List.head?_dropWhile_not isBlank t
    rw [← stripLeft, hhead] at hblank
    exact hblank
  rw [strip, hleft]
  exact List.rdropWhile_idempotent isBlank (stripLeft t)

/-! Pieces between separators -/

section Pieces

variable {a : Text} {c : Char}

theorem splitOn_ne_nil (c : Char) (t : Text) : splitOn [c] t ≠ [] := by
  cases t with
  | nil => simp [splitOn, splitFrom]
  | cons d t =>
    rw [splitOn, splitFrom]
    split
    · simp
    · split <;> simp

theorem splitOn_cons (c : Char) (t : Text) : splitOn [c] (c :: t) = [] :: splitOn [c] t := by
  simp [splitOn, splitFrom, List.isPrefixOf]

theorem splitOn_cons_of_ne {b : Text} {d : Char} (hd : d ≠ c) {piece : Text} {pieces : List Text}
    (h : splitOn [c] b = piece :: pieces) : splitOn [c] (d :: b) = (d :: piece) :: pieces := by
  have hprefix : List.isPrefixOf [c] (d :: b) = false := by simp [List.isPrefixOf, hd.symm]
  rw [splitOn] at h
  rw [splitOn, splitFrom, hprefix, h]
  rfl

theorem splitOn_append_cons (c : Char) (a b : Text) :
    splitOn [c] (a ++ c :: b) = splitOn [c] a ++ splitOn [c] b := by
  induction a with
  | nil => exact splitOn_cons c b
  | cons d a ih =>
    by_cases hd : d = c
    · rw [hd, List.cons_append, splitOn_cons, splitOn_cons, ih, List.cons_append]
    · obtain ⟨piece, pieces, h⟩ := List.exists_cons_of_ne_nil (splitOn_ne_nil c a)
      rw [splitOn_cons_of_ne hd h, List.cons_append, List.cons_append]
      rw [h, List.cons_append] at ih
      exact splitOn_cons_of_ne hd ih

theorem splitOn_of_notMem (hc : c ∉ a) : splitOn [c] a = [a] := by
  induction a with
  | nil => rfl
  | cons d a ih =>
    rw [List.mem_cons, not_or] at hc
    exact splitOn_cons_of_ne (Ne.symm hc.1) (ih hc.2)

theorem splitOn_append (hc : c ∉ a) (b : Text) :
    splitOn [c] (a ++ c :: b) = a :: splitOn [c] b := by
  rw [splitOn_append_cons, splitOn_of_notMem hc, List.singleton_append]

end Pieces

end SasMigration.Text
