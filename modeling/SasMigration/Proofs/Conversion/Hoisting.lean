import SasMigration.Proofs.Conversion.Imports

namespace SasMigration

def Text.Before (s t : Text) : Prop := List.Lex (fun a b : Char ↦ a.toNat < b.toNat) s t

theorem Text.before_of_le {s t : Text} (h : le s t) (hne : s ≠ t) : Before s t := by
  induction s generalizing t with
  | nil =>
    cases t with
    | nil => exact absurd rfl hne
    | cons b t => exact .nil
  | cons a s ih =>
    cases t with
    | nil => cases h
    | cons b t =>
      simp only [le, Bool.or_eq_true, decide_eq_true_eq, Bool.and_eq_true, beq_iff_eq] at h
      rcases h with hlt | ⟨rfl, hle⟩
      · exact .rel hlt
      · exact .cons (ih hle fun heq ↦ hne (by rw [heq]))

theorem Text.pairwise_before_distinctSorted (ts : List Text) :
    (distinctSorted ts).Pairwise Before := by
  have hboth := (pairwise_distinctSorted ts).and (nodup_distinctSorted ts)
  apply hboth.imp
  intro s t h
  exact before_of_le h.1 h.2

namespace Imports

open Text (lines unlines strip isBlank distinctSorted)

variable {line s : Text} {ls : List Text} {pieces other : List Text}

/-- The import statements that a program begins with, line by line. -/
def header (code : Text) : List Text := (lines code).takeWhile isStatement

/-- The lines after the header. -/
def below (code : Text) : List Text := (lines code).dropWhile isStatement

def written (ls : List Text) : List Text := ls.filter fun line ↦ !line.all isBlank

theorem written_append (ls ms : List Text) : written (ls ++ ms) = written ls ++ written ms :=
  List.filter_append ..

theorem written_nil_cons (ls : List Text) : written ([] :: ls) = written ls :=
  List.filter_cons_of_neg (by simp)

theorem not_blank_of_isStatement (h : isStatement line) : line.all isBlank = false := by
  rw [Bool.eq_false_iff]
  intro hblank
  rw [isStatement, Text.strip_of_blank (List.all_eq_true.mp hblank)] at h
  exact absurd h (by decide)

theorem written_of_isStatement (h : ∀ line ∈ ls, isStatement line) : written ls = ls := by
  rw [written, List.filter_eq_self]
  intro line hline
  simp [not_blank_of_isStatement (h line hline)]

/-- The statements of all pieces, in the order in which they come first. -/
def hoisted (pieces : List Text) : List Text := distinctSorted (pieces.flatMap ofCode)

theorem isFound_of_mem_hoisted (h : s ∈ hoisted pieces) : IsFound s := by
  obtain ⟨piece, -, hpiece⟩ := List.mem_flatMap.mp (Text.mem_distinctSorted.mp h)
  exact isFound_of_mem_ofCode hpiece

/-- The lines of the pieces that are neither blank nor import statements. -/
def remaining (pieces : List Text) : List Text :=
  pieces.flatMap fun piece ↦ (lines piece).filter fun line ↦ !isStatement line && !line.all isBlank

theorem written_kept (code : Text) :
    written (kept code) =
      (lines code).filter fun line ↦ !isStatement line && !line.all isBlank := by
  rw [written, kept, List.filter_filter]
  apply List.filter_congr
  intro line _
  rw [Bool.and_comm]

theorem written_lines_removedFrom (code : Text) :
    written (lines (removedFrom code)) = written (kept code) := by
  rw [lines_removedFrom]
  split
  · next hnil => rw [hnil, written_nil_cons]
  · rfl

theorem written_lines_bodies (pieces : List Text) :
    written (lines (Text.join "\n\n" (pieces.map removedFrom))) = remaining pieces := by
  induction pieces with
  | nil => rfl
  | cons p ps ih =>
    cases ps with
    | nil =>
      rw [List.map_singleton, Text.join, List.intercalate_singleton, written_lines_removedFrom,
        written_kept, remaining, List.flatMap_singleton]
    | cons q ps =>
      rw [List.map_cons] at ih
      rw [List.map_cons, List.map_cons, lines_join_cons_cons, written_append, written_nil_cons, ih,
        written_lines_removedFrom, written_kept]
      rfl

/-- A merged program is its statements, a blank line, and lines none of which is a statement. -/
theorem exists_lines_merge (pieces : List Text) :
    ∃ rest, lines (merge pieces) = hoisted pieces ++ [] :: rest ∧
      (∀ line ∈ rest, isStatement line = false) ∧ written rest = remaining pieces := by
  let bodies := Text.join "\n\n" (pieces.map removedFrom)
  have hbodies : ∀ line ∈ lines bodies, isStatement line = false := by
    have hnone := onLines_lines_bodies pieces
    rw [onLines, List.map_eq_nil_iff, List.filter_eq_nil_iff] at hnone
    intro line hline
    simpa using hnone line hline
  have hlines := lines_merge pieces
  rw [← hoisted, Text.lines_unlines fun s hs ↦ (isFound_of_mem_hoisted hs).newline_notMem] at hlines
  by_cases hnil : hoisted pieces = []
  · -- without statements there is an empty line in their place
    refine ⟨[] :: lines bodies, ?_, ?_, ?_⟩
    · rw [hlines, if_pos hnil, hnil]
      rfl
    · exact List.forall_mem_cons.mpr ⟨isStatement_nil, hbodies⟩
    · rw [written_nil_cons, written_lines_bodies]
  · exact ⟨lines bodies, by rw [hlines, if_neg hnil], hbodies, written_lines_bodies pieces⟩

theorem header_merge (pieces : List Text) : header (merge pieces) = hoisted pieces := by
  obtain ⟨rest, hlines, -, -⟩ := exists_lines_merge pieces
  rw [header, hlines,
    List.takeWhile_append_of_pos fun s hs ↦ (isFound_of_mem_hoisted hs).isStatement]
  simp [isStatement_nil]

theorem written_below_merge (pieces : List Text) :
    written (below (merge pieces)) = remaining pieces := by
  obtain ⟨rest, hlines, -, hrest⟩ := exists_lines_merge pieces
  rw [below, hlines,
    List.dropWhile_append_of_pos fun s hs ↦ (isFound_of_mem_hoisted hs).isStatement,
    List.dropWhile_cons_of_neg (by simp [isStatement_nil]), written_nil_cons, hrest]

theorem ofCode_merge (pieces : List Text) : ofCode (merge pieces) = hoisted pieces := by
  apply Text.distinctSorted_congr
  intro s
  rw [← onLines, ← mem_ofCode, mem_ofCode_merge, List.mem_flatMap]

theorem filter_strip_lines_merge (h : s ∈ hoisted pieces) :
    (lines (merge pieces)).filter (fun line ↦ strip line == s) = [s] := by
  obtain ⟨rest, hlines, hnone, -⟩ := exists_lines_merge pieces
  have hs := isFound_of_mem_hoisted h
  have hbelow : ([] :: rest).filter (fun line ↦ strip line == s) = [] := by
    rw [List.filter_eq_nil_iff]
    intro line hline hstrip
    have hstatement : isStatement line := by
      rw [isStatement, beq_iff_eq.mp hstrip, ← hs.strip_eq]
      exact hs.isStatement
    rcases List.mem_cons.mp hline with rfl | hline
    · rw [isStatement_nil] at hstatement
      cases hstatement
    · rw [hnone line hline] at hstatement
      cases hstatement
  have hheader : (hoisted pieces).filter (fun line ↦ strip line == s) = [s] := by
    have hself : (hoisted pieces).filter (fun line ↦ strip line == s) =
        (hoisted pieces).filter (· == s) := by
      apply List.filter_congr
      intro line hline
      rw [(isFound_of_mem_hoisted hline).strip_eq]
    have hnodup : (hoisted pieces).Nodup := Text.nodup_distinctSorted _
    rw [hself, List.filter_beq, List.count_eq_one_of_mem hnodup h]
    rfl
  rw [hlines, List.filter_append, hheader, hbelow]
  rfl

theorem written_lines_merge (pieces : List Text) :
    written (lines (merge pieces)) = hoisted pieces ++ remaining pieces := by
  obtain ⟨rest, hlines, -, hrest⟩ := exists_lines_merge pieces
  rw [hlines, written_append, written_nil_cons, hrest,
    written_of_isStatement fun s hs ↦ (isFound_of_mem_hoisted hs).isStatement]

theorem written_lines_merge_merge (pieces : List Text) :
    written (lines (merge [merge pieces])) = written (lines (merge pieces)) := by
  have hheader : hoisted [merge pieces] = hoisted pieces := by
    rw [hoisted, List.flatMap_singleton, ofCode_merge]
    apply Text.distinctSorted_congr
    intro s
    exact Text.mem_distinctSorted
  have hremaining : remaining [merge pieces] = remaining pieces := by
    have hsplit : remaining [merge pieces] =
        (written (lines (merge pieces))).filter fun line ↦ !isStatement line := by
      rw [remaining, List.flatMap_singleton, written, List.filter_filter]
    rw [hsplit, written_lines_merge, List.filter_append, List.filter_eq_nil_iff.mpr,
      List.filter_eq_self.mpr, List.nil_append]
    · intro line hline
      obtain ⟨piece, -, hline⟩ := List.mem_flatMap.mp hline
      rw [List.mem_filter, Bool.and_eq_true] at hline
      exact hline.2.1
    · intro s hs
      simp [(isFound_of_mem_hoisted hs).isStatement]
  rw [written_lines_merge, written_lines_merge, hheader, hremaining]

theorem hoisted_perm (h : pieces.Perm other) : hoisted other = hoisted pieces := by
  apply Text.distinctSorted_congr
  intro s
  exact (h.flatMap_right ofCode).mem_iff.symm

/-- Merging hoists the import statements and loses nothing. The statements of a merged program are
those of its pieces. They are its first lines, each on one line and without blanks around it, in
strictly increasing order. The lines below them that are not blank are those of the pieces that are
no statements, unchanged and in their order. The header does not depend on the order of the pieces,
merging again changes blank lines only, and functions are merged as the pieces they are. -/
theorem merge_hoists_and_keeps (pieces : List Text) :
    (∀ s, s ∈ ofCode (merge pieces) ↔ ∃ piece ∈ pieces, s ∈ ofCode piece) ∧
      header (merge pieces) = ofCode (merge pieces) ∧
      (∀ s ∈ ofCode (merge pieces),
        (lines (merge pieces)).filter (fun line ↦ strip line == s) = [s]) ∧
      (header (merge pieces)).Pairwise Text.Before ∧
      written (below (merge pieces)) = pieces.flatMap (fun piece ↦
        (lines piece).filter fun line ↦ !isStatement line && !line.all isBlank) ∧
      (∀ other, pieces.Perm other → header (merge other) = header (merge pieces)) ∧
      written (lines (merge [merge pieces])) = written (lines (merge pieces)) ∧
      ∀ functions : List (Text × Text),
        mergeFunctions functions = merge (functions.map Prod.snd) := by
  refine ⟨fun s ↦ mem_ofCode_merge, ?_, ?_, ?_, written_below_merge pieces, ?_,
    written_lines_merge_merge pieces, fun functions ↦ mergeOf_eq Prod.snd functions⟩
  · rw [header_merge, ofCode_merge]
  · rw [ofCode_merge]
    exact fun s ↦ filter_strip_lines_merge
  · rw [header_merge]
    exact Text.pairwise_before_distinctSorted _
  · intro other hperm
    rw [header_merge, header_merge, hoisted_perm hperm]

/-- Two pieces with a statement in common, which is inside the first of them, and a blank line. -/
theorem merge_hoists_and_keeps_shared :
    let first : Text := "def f():\n  import b\n  return b"
    let second : Text := "import b\nimport a as c\n \nf()"
    let shared : Text := "import b"
    let merged := merge [first, second]
    shared ∈ ofCode merged ∧ (lines merged).filter (fun line ↦ strip line == shared) = [shared] ∧
      [first, second].Perm [second, first] ∧ header (merge [second, first]) = header merged ∧
      written (below merged) = [("def f():" : Text), "  return b", "f()"] := by
  intro first second shared merged
  have hmerged := merge_hoists_and_keeps [first, second]
  have hmem : shared ∈ ofCode merged := by
    refine (hmerged.1 shared).mpr ⟨second, by simp, mem_ofCode.mpr ?_⟩
    decide +kernel
  have hswap : [first, second].Perm [second, first] := .swap second first []
  refine ⟨hmem, hmerged.2.2.1 shared hmem, hswap, hmerged.2.2.2.2.2.1 _ hswap, ?_⟩
  rw [hmerged.2.2.2.2.1]
  decide +kernel

end Imports

end SasMigration
