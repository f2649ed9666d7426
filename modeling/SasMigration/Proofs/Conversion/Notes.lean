import SasMigration.Proofs.Conversion.Assembly
import SasMigration.Proofs.Conversion.Statement
import SasMigration.Proofs.Database.Agreement
import SasMigration.Proofs.Pattern.Search
import SasMigration.Proofs.Value.Association

namespace SasMigration

open Text (lines unlines)

variable {t : Text} {deps : List Text} {fields : Fields}

/-- A text of which every line begins with a number sign. -/
def Text.IsComment (t : Text) : Prop := ∀ line ∈ lines t, line.head? = some '#'

namespace Text.IsComment

theorem unlines_iff {ls : List Text} (h : ls ≠ []) :
    IsComment (unlines ls) ↔ ∀ s ∈ ls, IsComment s := by
  rw [IsComment, lines_unlines_of_ne_nil h]
  constructor
  · intro hls s hs line hline
    exact hls line (List.mem_flatMap_of_mem hs hline)
  · intro hls line hline
    obtain ⟨s, hs, hline⟩ := List.mem_flatMap.mp hline
    exact hls s hs line hline

theorem append_iff {lead : Text} (hhead : lead.head? = some '#') (hlead : '\n' ∉ lead) :
    IsComment (lead ++ t) ↔ ∀ line ∈ (lines t).tail, line.head? = some '#' := by
  obtain ⟨first, more, ht, hboth⟩ := exists_lines_append hlead t
  have hfirst : (lead ++ first).head? = some '#' := by rw [List.head?_append, hhead, Option.some_or]
  rw [IsComment, hboth, ht, List.forall_mem_cons, List.tail_cons]
  exact and_iff_right hfirst

theorem of_notMem (hhead : t.head? = some '#') (h : '\n' ∉ t) : IsComment t := by
  rw [← List.append_nil t, append_iff hhead h]
  exact List.forall_mem_nil _

end Text.IsComment

namespace Imports

theorem Statement.exists_text_eq (st : Statement) : ∃ c rest, st.text = c :: rest ∧ c ≠ '#' := by
  cases h : st.source with
  | none => exact ⟨'i', _, by rw [Statement.text, h]; rfl, by decide⟩
  | some s => exact ⟨'f', _, by rw [Statement.text, h]; rfl, by decide⟩

theorem isStatement_of_head {line : Text} (h : line.head? = some '#') :
    isStatement line = false := by
  obtain ⟨rest, rfl⟩ := List.head?_eq_some_iff.mp h
  have hblank : Text.isBlank '#' = false := by decide
  have hstrip : Text.strip ('#' :: rest) = '#' :: Text.stripRight rest := by
    rw [Text.strip, Text.stripLeft_eq_self (by simp [hblank])]
    exact Text.stripRight_append (x := ['#']) rfl hblank rest
  rw [← Bool.not_eq_true, isStatement_iff]
  rintro ⟨st, hst⟩
  obtain ⟨c, text, htext, hc⟩ := st.exists_text_eq
  rw [hstrip, htext] at hst
  exact hc (List.cons.inj hst).1.symm

theorem onLines_of_isComment (h : t.IsComment) : onLines (lines t) = [] := by
  have hfilter : (lines t).filter isStatement = [] := by
    rw [List.filter_eq_nil_iff]
    intro line hline
    rw [isStatement_of_head (h line hline)]
    exact Bool.false_ne_true
  rw [onLines, hfilter, List.map_nil]

end Imports

namespace References

theorem newline_notMem_of_mem_captures {p : Pattern} {number : Nat} {code w : Text}
    (hp : p.Records fun _ w ↦ '\n' ∉ w) (h : w ∈ p.captures number code) : '\n' ∉ w := by
  obtain ⟨m, hm, rfl⟩ := List.mem_map.mp h
  cases hg : m.group number with
  | none => exact List.not_mem_nil
  | some w => exact Pattern.records_of_mem_findAll hp hm hg

theorem records_includePattern : includePattern.Records fun _ w ↦ '\n' ∉ w := by
  rw [includePattern, Pattern.records_inOrder]
  simp only [List.forall_mem_cons]
  refine ⟨Pattern.records_letters _ _, trivial, trivial, ⟨trivial, fun s t v h hv hmem ↦ ?_⟩,
    trivial, Pattern.records_letters _ _, fun p hp ↦ nomatch hp⟩
  exact absurd ((Pattern.holds_of_mem_ends_span h hv).2 _ hmem) (by decide)

theorem records_libraryPattern : libraryPattern.Records fun _ w ↦ '\n' ∉ w := by
  rw [libraryPattern, Pattern.records_inOrder]
  simp only [List.forall_mem_cons]
  refine ⟨Pattern.records_letters _ _, trivial, ⟨trivial, fun s t v h hv hmem ↦ ?_⟩, trivial,
    fun p hp ↦ nomatch hp⟩
  exact absurd (Pattern.isWord_of_mem_word1 h hv _ hmem) (by decide)

theorem newline_notMem_of_mem_external {code dep : Text} (h : dep ∈ (ofCode code).external) :
    '\n' ∉ dep := by
  rcases List.mem_append.mp h with h | h
  · exact newline_notMem_of_mem_captures records_includePattern (Text.mem_distinctSorted.mp h)
  · exact newline_notMem_of_mem_captures records_libraryPattern (Text.mem_distinctSorted.mp h)

end References

theorem Value.part?_of_get? {key : Text} {v : Value} (h : fields.get? key = some v) :
    (Value.object fields).part? key = .ok (some v) := by
  obtain ⟨field, hfield, -⟩ := Option.map_eq_some_iff.mp h
  have hmem := List.mem_of_find?_eq_some hfield
  have htrue : (Value.object fields).isTrue := by
    rw [Value.isTrue, Bool.not_eq_true', List.isEmpty_eq_false_iff]
    exact List.ne_nil_of_mem hmem
  have hkey : field.1 == key := List.find?_some (p := fun f : Text × Value ↦ f.1 == key) hfield
  have hholds : (Value.object fields).holds key = .ok true :=
    congrArg Except.ok (List.any_eq_true.mpr ⟨field, hmem, hkey⟩)
  rw [part?, if_pos htrue, hholds]
  exact congrArg Except.ok h

theorem Value.texts_inj {ts us : List Text} (h : texts ts = texts us) : ts = us :=
  List.map_injective_iff.mpr (fun _ _ ↦ Value.text.inj) (Value.list.inj h)

namespace DependencyNotes

/-- The notes on dependencies that are given by texts. -/
def ofTexts (deps : List Text) : Text :=
  if deps = [] then none else unlines (opening ++ deps.map (fun dep ↦ note (.text dep)) ++ closing)

theorem listed?_of_part? {analysis : Value}
    (h : analysis.part? "external_dependencies" = .ok (some (.texts deps))) :
    listed? analysis = .ok (if deps = [] then Option.none else some (.texts deps)) := by
  rw [listed?, h]
  cases deps with
  | nil => rfl
  | cons dep deps => rfl

theorem ofList_texts (h : deps ≠ []) : ofList (.texts deps) = .ok (ofTexts deps) := by
  rw [ofTexts, if_neg h, ← Function.comp_def, ← List.map_map]
  rfl

theorem ofAnalysis_of_get? (h : fields.get? "external_dependencies" = some (.texts deps)) :
    ofAnalysis (.object fields) = .ok (ofTexts deps) := by
  rw [ofAnalysis, listed?_of_part? (Value.part?_of_get? h)]
  by_cases hnil : deps = []
  · rw [if_pos hnil, ofTexts, if_pos hnil]
    rfl
  · rw [if_neg hnil]
    exact ofList_texts hnil

def marked (deps : List Text) (program : Text) : Text :=
  if deps = [] then program else ofTexts deps ++ "\n\n".toList ++ program

theorem mark_of_get? (h : fields.get? "external_dependencies" = some (.texts deps))
    (program : Text) : mark (.object fields) program = .ok (marked deps program) := by
  rw [marked, mark, listed?_of_part? (Value.part?_of_get? h)]
  by_cases hnil : deps = []
  · rw [if_pos hnil, if_pos hnil]
    rfl
  · have hlist : ofList (.texts deps) = .ok (ofTexts deps) := ofList_texts hnil
    rw [if_neg hnil, if_neg hnil]
    simp only [bind, Except.bind, hlist]
    rfl

theorem lines_marked (program : Text) : lines (marked deps program) =
    (if deps = [] then [] else lines (ofTexts deps) ++ [[]]) ++ lines program := by
  rw [marked]
  split
  · rw [List.nil_append]
  · rw [Text.lines_append_gap, List.append_assoc, List.singleton_append]

theorem imports_marked (program : Text) (h : (ofTexts deps).IsComment) :
    Imports.ofCode (marked deps program) = Imports.ofCode program := by
  apply Imports.ofCode_congr
  intro s
  rw [Imports.mem_ofCode, Imports.mem_ofCode, lines_marked, Imports.onLines_append]
  split
  · rw [Imports.onLines_nil, List.nil_append]
  · rw [Imports.onLines_append, Imports.onLines_of_isComment h,
      Imports.onLines_cons_of_not Imports.isStatement_nil, Imports.onLines_nil]
    rfl

def noteLead : Text := "# TODO: Handle external dependency - "

theorem note_text (dep : Text) : note (.text dep) = noteLead ++ dep := rfl

/-- What the notes have in them whatever they are about. -/
def fixed : List Text := none :: noteLead :: (opening ++ closing)

theorem of_mem_fixed {s : Text} (h : s ∈ fixed) :
    s.head? = some '#' ∧ '\n' ∉ s ∧ '\r' ∉ s := by
  have hall : (fixed.all fun s ↦ s.head? = some '#' ∧ '\n' ∉ s ∧ '\r' ∉ s) = true := by
    decide +kernel
  exact of_decide_eq_true (List.all_eq_true.mp hall s h)

theorem isComment_of_mem_fixed {s : Text} (h : s ∈ fixed) : s.IsComment :=
  .of_notMem (of_mem_fixed h).1 (of_mem_fixed h).2.1

theorem isComment_ofTexts_iff : (ofTexts deps).IsComment ↔
    ∀ dep ∈ deps, ∀ line ∈ (lines dep).tail, line.head? = some '#' := by
  have hnone : Text.IsComment none := isComment_of_mem_fixed (by simp [fixed])
  have hopening : ∀ s ∈ opening, Text.IsComment s := fun s hs ↦
    isComment_of_mem_fixed (by simp [fixed, hs])
  have hclosing : ∀ s ∈ closing, Text.IsComment s := fun s hs ↦
    isComment_of_mem_fixed (by simp [fixed, hs])
  obtain ⟨hhead, hline, -⟩ := of_mem_fixed (s := noteLead) (by simp [fixed])
  rw [ofTexts]
  split
  · next hnil => simp [hnil, hnone]
  · rw [Text.IsComment.unlines_iff (by simp [opening])]
    simp only [List.forall_mem_append, List.forall_mem_map, note_text,
      Text.IsComment.append_iff hhead hline]
    exact ⟨fun h ↦ h.1.2, fun h ↦ ⟨⟨hopening, h⟩, hclosing⟩⟩

theorem carriageReturn_mem_ofTexts_iff : '\r' ∈ ofTexts deps ↔ ∃ dep ∈ deps, '\r' ∈ dep := by
  have hfixed {s : Text} (hs : s ∈ fixed) : '\r' ∉ s := (of_mem_fixed hs).2.2
  have hnone : '\r' ∉ none := hfixed (by simp [fixed])
  have hopening : ¬∃ s ∈ opening, '\r' ∈ s := fun ⟨s, hs, h⟩ ↦ hfixed (by simp [fixed, hs]) h
  have hclosing : ¬∃ s ∈ closing, '\r' ∈ s := fun ⟨s, hs, h⟩ ↦ hfixed (by simp [fixed, hs]) h
  have hlead : '\r' ∉ noteLead := hfixed (by simp [fixed])
  rw [ofTexts]
  split
  · next hnil => simp [hnil, hnone]
  · rw [Text.mem_unlines (by decide)]
    simp only [List.mem_append, or_and_right, exists_or, hopening, hclosing, hlead, false_or,
      or_false, List.mem_map, exists_exists_and_eq_and, note_text]

end DependencyNotes

namespace DependencyAnalysis

theorem get?_external_of_ofCode {model : ChatModel} {code : Text} {advice : Fields}
    (h : ofCode model code = .ok fields) (hadvice : model.dependencyAdvice = .object advice)
    (hnone : ∀ field ∈ advice, field.1 ≠ "external_dependencies") :
    fields.get? "external_dependencies" = some (.texts (References.ofCode code).external) := by
  have hget : Fields.get? advice.reverse "external_dependencies" = none := by
    rw [Fields.get?, Option.map_eq_none_iff, List.find?_eq_none]
    intro field hfield
    simpa using hnone field (List.mem_reverse.mp hfield)
  have hfields : (References.ofCode code).fields.putAll advice = fields := by
    cases model with
    | absent =>
      cases hadvice
      exact Except.ok.inj h
    | refused reason | notInstalled reason => cases h
    | failing reason | replying content =>
      exact Except.ok.inj ((congrArg (Fields.update _) hadvice).symm.trans h)
  rw [← hfields, Fields.get?_putAll, hget]
  rfl

theorem exists_reply (deps : List Text) : ∃ model, ∀ code, ∃ fields,
    ofCode model code = .ok fields ∧
      fields.get? "external_dependencies" = some (.texts deps) := by
  let advice : Fields := [("external_dependencies", .texts deps)]
  let model : ChatModel := .replying (.text ((Value.object advice).json true))
  have hplain : Value.Plain 2 (.object advice) := by
    refine .object (List.nodup_singleton _) fun field hfield ↦ ?_
    rw [List.mem_singleton.mp hfield]
    exact Value.plain_texts 0 deps
  have hread := hplain.ofJson_json (by decide) true [] (List.forall_mem_nil _)
  rw [List.append_nil] at hread
  have hadvice : model.dependencyAdvice = .object advice := by
    rw [ChatModel.dependencyAdvice, ChatModel.readReply, ChatModel.readJson, hread]
  refine ⟨model, fun code ↦ ⟨(References.ofCode code).fields.putAll advice,
    congrArg (Fields.update _) hadvice, ?_⟩⟩
  rw [Fields.get?_putAll]
  rfl

end DependencyAnalysis

namespace Conversion

theorem lines_assemble_eq (notes connections functions main : Text) :
    lines (assemble notes connections functions main) =
      lines notes ++ (lines (assemble [] connections functions main)).tail := by
  rw [lines_assemble, lines_assemble [], Text.lines_of_notMem List.not_mem_nil]
  rfl

theorem imports_assemble_of_isComment {notes connections functions main : Text}
    (h : notes.IsComment) : Imports.ofCode (assemble notes connections functions main) =
      Imports.ofCode (assemble [] connections functions main) := by
  have hnotes (s : Text) : s ∉ Imports.ofCode notes := by
    rw [Imports.mem_ofCode, Imports.onLines_of_isComment h]
    exact List.not_mem_nil
  have hnil : Imports.ofCode [] = [] := by decide +kernel
  apply Imports.ofCode_congr
  intro s
  rw [mem_imports_assemble, mem_imports_assemble, hnil]
  exact or_congr_left (iff_of_false (hnotes s) List.not_mem_nil)

end Conversion

/-- The notes on the external dependencies of a program, where an analysis lists these by texts.
They are a comment exactly if every line of a dependency but its first begins with a number sign,
and have a carriage return exactly if a dependency has one. Without advice on external dependencies
these are the names that the program gives, and the notes are a comment. Notes that are a comment
add no import statement, neither to a program that is marked with them nor to a converted one. -/
theorem DependencyNotes.isComment_iff_of_ofCode {model : ChatModel} {code : Text}
    (h : DependencyAnalysis.ofCode model code = .ok fields)
    (hdeps : fields.get? "external_dependencies" = some (.texts deps)) :
    ∃ notes, ofAnalysis (.object fields) = .ok notes ∧
      (notes.IsComment ↔ ∀ dep ∈ deps, ∀ line ∈ (lines dep).tail, line.head? = some '#') ∧
      ('\r' ∈ notes ↔ ∃ dep ∈ deps, '\r' ∈ dep) ∧
      (∀ advice, model.dependencyAdvice = .object advice →
        (∀ field ∈ advice, field.1 ≠ "external_dependencies") →
        deps = (References.ofCode code).external) ∧
      (deps = (References.ofCode code).external → notes.IsComment) ∧
      (∀ program, ∃ marked, mark (.object fields) program = .ok marked ∧
        lines marked = (if deps = [] then [] else lines notes ++ [[]]) ++ lines program ∧
        (notes.IsComment → Imports.ofCode marked = Imports.ofCode program)) ∧
      ∀ sources macros blocks replies file r,
        (Conversion.ofCode ⟨model, sources⟩ (some ⟨.named macros, blocks⟩) replies code file).1 =
          .ok r →
        ∃ connections, Connection.ofAnalysis (.object r.sources) = .ok connections ∧
          let plain := Conversion.assemble [] connections
            (Imports.merge (r.functions.map Prod.snd)) (Imports.merge r.blocks)
          lines r.code = lines notes ++ (lines plain).tail ∧
          (notes.IsComment → Imports.ofCode r.code = Imports.ofCode plain ∧
            r.requirements = Requirements.ofCode plain) := by
  refine ⟨ofTexts deps, ofAnalysis_of_get? hdeps, isComment_ofTexts_iff,
    carriageReturn_mem_ofTexts_iff, ?_, ?_, fun program ↦ ?_, ?_⟩
  · intro advice hadvice hnone
    have hfound := DependencyAnalysis.get?_external_of_ofCode h hadvice hnone
    exact Value.texts_inj (Option.some.inj (hdeps.symm.trans hfound))
  · intro hexternal
    refine isComment_ofTexts_iff.mpr fun dep hdep ↦ ?_
    have hline : '\n' ∉ dep := References.newline_notMem_of_mem_external (hexternal ▸ hdep)
    rw [Text.lines_of_notMem hline]
    exact List.forall_mem_nil _
  · exact ⟨_, mark_of_get? hdeps program, lines_marked program, imports_marked program⟩
  · intro sources macros blocks replies file r hr
    obtain ⟨x, y, hrun⟩ := Conversion.exists_run_of_ofCode hr
    obtain ⟨notes, connections, hends⟩ := Conversion.exists_ends_of_run hrun
    obtain rfl : fields = r.dependencies :=
      Except.ok.inj (h.symm.trans hends.dependencies_eq)
    obtain rfl : ofTexts deps = notes :=
      Except.ok.inj ((ofAnalysis_of_get? hdeps).symm.trans hends.notes_eq)
    refine ⟨connections, hends.connections_eq, ?_, fun hcomment ↦ ?_⟩
    · rw [hends.code_eq]
      exact Conversion.lines_assemble_eq _ _ _ _
    · have himports : Imports.ofCode r.code = _ :=
        hends.code_eq ▸ Conversion.imports_assemble_of_isComment hcomment
      refine ⟨himports, ?_⟩
      rw [hends.requirements_eq, Requirements.ofCode, himports]
      rfl

/-- A model names a dependency on two lines, the second of which is a comment by itself. -/
theorem DependencyNotes.isComment_iff_of_ofCode_commented :
    let deps : List Text := ["a.sas\n# b.sas"]
    ∃ model fields notes, DependencyAnalysis.ofCode model "%include 'a.sas';" = .ok fields ∧
      fields.get? "external_dependencies" = some (.texts deps) ∧
      ofAnalysis (.object fields) = .ok notes ∧ notes.IsComment ∧
      ∃ marked, mark (.object fields) "import numpy" = .ok marked ∧
        Imports.ofCode marked = [("import numpy" : Text)] := by
  intro deps
  obtain ⟨model, hmodel⟩ := DependencyAnalysis.exists_reply deps
  obtain ⟨fields, hfields, hdeps⟩ := hmodel "%include 'a.sas';"
  obtain ⟨notes, hnotes, hiff, -, -, -, hmark, -⟩ := isComment_iff_of_ofCode hfields hdeps
  have hcomment : notes.IsComment := hiff.mpr (by decide)
  obtain ⟨marked, hmarked, -, himports⟩ := hmark "import numpy"
  refine ⟨model, fields, notes, hfields, hdeps, hnotes, hcomment, marked, hmarked, ?_⟩
  rw [himports hcomment]
  decide +kernel

/-- The second line of a dependency that a model names is an import statement, in the notes on every
program. -/
theorem DependencyNotes.exists_import_of_notes : ∃ model, ∀ code, ∃ fields notes,
    DependencyAnalysis.ofCode model code = .ok fields ∧
    fields.get? "external_dependencies" = some (.texts ["x\nimport pandas"]) ∧
    ofAnalysis (.object fields) = .ok notes ∧ ¬notes.IsComment ∧
    ("import pandas" : Text) ∈ Imports.ofCode notes := by
  obtain ⟨model, hmodel⟩ := DependencyAnalysis.exists_reply ["x\nimport pandas"]
  refine ⟨model, fun code ↦ ?_⟩
  obtain ⟨fields, hfields, hdeps⟩ := hmodel code
  have himport : ("import pandas" : Text) ∈ Imports.ofCode (ofTexts ["x\nimport pandas"]) := by
    decide +kernel
  refine ⟨fields, _, hfields, hdeps, ofAnalysis_of_get? hdeps, fun hcomment ↦ ?_, himport⟩
  rw [Imports.mem_ofCode, Imports.onLines_of_isComment hcomment] at himport
  cases himport

end SasMigration
