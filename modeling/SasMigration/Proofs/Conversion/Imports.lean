import SasMigration.Conversion.Requirements
import SasMigration.Proofs.Text.Distinct
import SasMigration.Proofs.Text.Lines

namespace SasMigration

namespace Imports

variable {code s line : Text} {ls ms ss pieces : List Text}

def onLines (ls : List Text) : List Text := (ls.filter isStatement).map Text.strip

/-- The lines of a program that are no import statements. -/
def kept (code : Text) : List Text := (Text.lines code).filter fun line ↦ !isStatement line

/-- An import statement as it is found: on one line, without blanks around it. -/
structure IsFound (s : Text) : Prop where
  isStatement : isStatement s
  strip_eq : Text.strip s = s
  newline_notMem : '\n' ∉ s

theorem isStatement_nil : isStatement [] = false := by decide

theorem mem_ofCode : s ∈ ofCode code ↔ s ∈ onLines (Text.lines code) := Text.mem_distinctSorted

theorem onLines_nil : onLines [] = [] := rfl

theorem onLines_append : onLines (ls ++ ms) = onLines ls ++ onLines ms := by
  rw [onLines, List.filter_append, List.map_append]
  rfl

theorem onLines_cons_of_not (h : isStatement line = false) :
    onLines (line :: ls) = onLines ls := by
  rw [onLines, List.filter_cons_of_neg (by simp [h])]
  rfl

theorem isFound_strip (h : isStatement line) (hline : '\n' ∉ line) : IsFound (Text.strip line) where
  isStatement := by rwa [isStatement, Text.strip_strip]
  strip_eq := Text.strip_strip line
  newline_notMem := fun hmem ↦ hline ((Text.strip_infix line).subset hmem)

theorem isFound_of_mem_ofCode (h : s ∈ ofCode code) : IsFound s := by
  obtain ⟨line, hline, rfl⟩ := List.mem_map.mp (mem_ofCode.mp h)
  obtain ⟨hline, hstatement⟩ := List.mem_filter.mp hline
  exact isFound_strip hstatement (Text.notMem_of_mem_lines hline)

theorem onLines_of_isFound (h : ∀ s ∈ ss, IsFound s) : onLines ss = ss := by
  rw [onLines, List.filter_eq_self.mpr fun s hs ↦ (h s hs).isStatement]
  exact (List.map_congr_left fun s hs ↦ (h s hs).strip_eq).trans (List.map_id ss)

theorem onLines_lines_unlines (h : ∀ s ∈ ss, IsFound s) :
    onLines (Text.lines (Text.unlines ss)) = ss := by
  rw [Text.lines_unlines fun s hs ↦ (h s hs).newline_notMem]
  split
  · next hnil => rw [hnil, onLines_cons_of_not isStatement_nil, onLines_of_isFound (by simp)]
  · exact onLines_of_isFound h

theorem lines_removedFrom (code : Text) :
    Text.lines (removedFrom code) = if kept code = [] then [[]] else kept code :=
  Text.lines_unlines fun _ hline ↦ Text.notMem_of_mem_lines (List.mem_of_mem_filter hline)

theorem kept_sublist_removedFrom (code : Text) :
    (kept code).Sublist (Text.lines (removedFrom code)) := by
  rw [lines_removedFrom]
  split
  · next hnil => rw [hnil]; exact List.nil_sublist _
  · exact List.Sublist.refl _

theorem onLines_kept (code : Text) : onLines (kept code) = [] := by
  rw [onLines, kept, List.filter_filter]
  simp

theorem onLines_lines_removedFrom (code : Text) :
    onLines (Text.lines (removedFrom code)) = [] := by
  rw [lines_removedFrom]
  split
  · exact onLines_cons_of_not isStatement_nil
  · exact onLines_kept code

theorem lines_join_cons_cons (p q : Text) (ps : List Text) :
    Text.lines (Text.join "\n\n" (p :: q :: ps)) =
      Text.lines p ++ [] :: Text.lines (Text.join "\n\n" (q :: ps)) := by
  rw [Text.join, List.intercalate_cons_cons, Text.lines_append_gap]
  rfl

theorem onLines_lines_bodies (pieces : List Text) :
    onLines (Text.lines (Text.join "\n\n" (pieces.map removedFrom))) = [] := by
  induction pieces with
  | nil => exact onLines_cons_of_not isStatement_nil
  | cons p ps ih =>
    cases ps with
    | nil =>
      rw [List.map_singleton, Text.join, List.intercalate_singleton]
      exact onLines_lines_removedFrom p
    | cons q ps =>
      rw [List.map_cons, List.map_cons, lines_join_cons_cons, onLines_append,
        onLines_cons_of_not isStatement_nil, onLines_lines_removedFrom]
      exact ih

theorem kept_sublist_bodies (pieces : List Text) :
    (pieces.flatMap kept).Sublist
      (Text.lines (Text.join "\n\n" (pieces.map removedFrom))) := by
  induction pieces with
  | nil => exact List.nil_sublist _
  | cons p ps ih =>
    cases ps with
    | nil =>
      rw [List.map_singleton, Text.join, List.intercalate_singleton, List.flatMap_singleton]
      exact kept_sublist_removedFrom p
    | cons q ps =>
      rw [List.map_cons, List.map_cons, lines_join_cons_cons, List.flatMap_cons]
      exact (kept_sublist_removedFrom p).append (ih.cons [])

theorem mergeOf_eq {α : Type} (program : α → Text) (items : List α) :
    mergeOf program items = merge (items.map program) := by
  rw [merge, mergeOf, mergeOf, List.flatMap_map, List.map_map]
  rfl

theorem lines_merge (pieces : List Text) :
    Text.lines (merge pieces) =
      Text.lines (Text.unlines (Text.distinctSorted (pieces.flatMap ofCode))) ++
        [] :: Text.lines (Text.join "\n\n" (pieces.map removedFrom)) := Text.lines_append_gap _ _

theorem onLines_lines_merge (pieces : List Text) :
    onLines (Text.lines (merge pieces)) = Text.distinctSorted (pieces.flatMap ofCode) := by
  have hfound : ∀ s ∈ Text.distinctSorted (pieces.flatMap ofCode), IsFound s := by
    intro s hs
    obtain ⟨piece, -, hpiece⟩ := List.mem_flatMap.mp (Text.mem_distinctSorted.mp hs)
    exact isFound_of_mem_ofCode hpiece
  rw [lines_merge, onLines_append, onLines_lines_unlines hfound,
    onLines_cons_of_not isStatement_nil, onLines_lines_bodies, List.append_nil]

theorem mem_ofCode_merge : s ∈ ofCode (merge pieces) ↔ ∃ piece ∈ pieces, s ∈ ofCode piece := by
  rw [mem_ofCode, onLines_lines_merge, Text.mem_distinctSorted, List.mem_flatMap]

theorem kept_sublist_merge (pieces : List Text) :
    (pieces.flatMap kept).Sublist (Text.lines (merge pieces)) := by
  rw [lines_merge]
  exact ((kept_sublist_bodies pieces).cons []).trans (List.sublist_append_right _ _)

theorem ofCode_congr {code code' : Text} (h : ∀ s, s ∈ ofCode code ↔ s ∈ ofCode code') :
    ofCode code = ofCode code' :=
  Text.distinctSorted_congr fun s ↦ by simpa only [ofCode, Text.mem_distinctSorted] using h s

end Imports

theorem Requirements.ofCode_eq_of_statements {code : Text} {union : List Text}
    (h : ∀ s, s ∈ union ↔ s ∈ Imports.ofCode code) :
    ofCode code = ofCode (Text.unlines union) := by
  have hfound : ∀ s ∈ union, Imports.IsFound s := fun s hs ↦
    Imports.isFound_of_mem_ofCode ((h s).mp hs)
  have hsame : Imports.ofCode code = Imports.ofCode (Text.unlines union) := by
    apply Imports.ofCode_congr
    intro s
    rw [← h s, Imports.mem_ofCode, Imports.onLines_lines_unlines hfound]
  rw [ofCode, ofCode, hsame]

end SasMigration
