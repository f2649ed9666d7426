import SasMigration.Conversion.Convert
import SasMigration.Proofs.Conversion.Imports

namespace SasMigration

theorem Converting.exists_of_run_bind {α β : Type} {first : Converting α}
    {next : α → Converting β} {x y : Exchange} {b : β}
    (h : StateT.run (ExceptT.run (first >>= next)) x = (.ok b, y)) :
    ∃ a x', StateT.run (ExceptT.run first) x = (.ok a, x') ∧
      StateT.run (ExceptT.run (next a)) x' = (.ok b, y) := by
  rw [ExceptT.run_bind, StateT.run_bind] at h
  cases hfirst : StateT.run (ExceptT.run first) x with
  | mk result x' =>
    rw [hfirst] at h
    cases result with
    | error fault => cases h
    | ok a => exact ⟨a, x', rfl, h⟩

theorem Converting.run_bind_of_ok {α β : Type} {first : Converting α} {next : α → Converting β}
    {x x' : Exchange} {a : α} (h : StateT.run (ExceptT.run first) x = (.ok a, x')) :
    StateT.run (ExceptT.run (first >>= next)) x = StateT.run (ExceptT.run (next a)) x' := by
  rw [ExceptT.run_bind, StateT.run_bind, h]
  rfl

theorem Converting.eq_of_run_lift {α : Type} {e : Except Fault α} {x y : Exchange} {a : α}
    (h : StateT.run (ExceptT.run (liftM e : Converting α)) x = (.ok a, y)) : e = .ok a := by
  cases e with
  | error fault => cases h
  | ok b =>
    cases h
    rfl

theorem Converting.run_lift_of_run {α : Type} {c : Conversing α} {x y : Exchange} {a : α}
    (h : StateT.run c x = (a, y)) :
    StateT.run (ExceptT.run (liftM c : Converting α)) x = (.ok a, y) :=
  congrArg (fun r : α × Exchange ↦ (Except.ok r.1, r.2)) h

theorem Converting.run_of_run_lift {α : Type} {c : Conversing α} {x y : Exchange} {a : α}
    (h : StateT.run (ExceptT.run (liftM c : Converting α)) x = (.ok a, y)) :
    StateT.run c x = (a, y) := by
  have hrun : StateT.run (ExceptT.run (liftM c : Converting α)) x =
      (.ok (StateT.run c x).1, (StateT.run c x).2) := rfl
  rw [hrun] at h
  cases h
  rfl

namespace Conversion

open Text (lines)

def functionTitle : Text := "# ===== Function Definitions ====="

def mainTitle : Text := "# ===== Main Code ====="

theorem lines_assemble (notes connections functions main : Text) :
    lines (assemble notes connections functions main) =
      lines notes ++ [] :: (lines connections ++ [] :: functionTitle :: (lines functions ++
        [] :: mainTitle :: (lines main ++ [[]]))) := by
  have hassemble : assemble notes connections functions main =
      notes ++ "\n\n".toList ++ (connections ++ "\n\n".toList ++ (functionTitle ++
        '\n' :: (functions ++ "\n\n".toList ++ (mainTitle ++ '\n' :: (main ++ '\n' :: []))))) := by
    have hfunctions : "# ===== Function Definitions =====\n".toList = functionTitle ++ ['\n'] := rfl
    have hmain : "# ===== Main Code =====\n".toList = mainTitle ++ ['\n'] := rfl
    rw [assemble, hfunctions, hmain]
    simp only [List.append_assoc, List.singleton_append]
    rfl
  rw [hassemble, Text.lines_append_gap, Text.lines_append_gap, Text.lines_append_newline,
    Text.lines_append_gap, Text.lines_append_newline, Text.lines_append_newline,
    Text.lines_of_notMem (by decide : '\n' ∉ functionTitle),
    Text.lines_of_notMem (by decide : '\n' ∉ mainTitle)]
  rfl

theorem mem_imports_assemble {s notes connections functions main : Text} :
    s ∈ Imports.ofCode (assemble notes connections functions main) ↔
      s ∈ Imports.ofCode notes ∨ s ∈ Imports.ofCode connections ∨
        s ∈ Imports.ofCode functions ∨ s ∈ Imports.ofCode main := by
  have hfunctions : Imports.isStatement functionTitle = false := by decide
  have hmain : Imports.isStatement mainTitle = false := by decide
  simp only [Imports.mem_ofCode, lines_assemble, Imports.onLines_append,
    Imports.onLines_cons_of_not Imports.isStatement_nil, Imports.onLines_cons_of_not hfunctions,
    Imports.onLines_cons_of_not hmain, List.mem_append, Imports.onLines_nil, List.not_mem_nil,
    or_false]

theorem kept_sublist_assemble (notes connections : Text) (functions blocks : List Text) :
    ((functions ++ blocks).flatMap Imports.kept).Sublist
      (lines (assemble notes connections (Imports.merge functions) (Imports.merge blocks))) := by
  have hmain := (Imports.kept_sublist_merge blocks).trans (List.sublist_append_left _ [[]])
  have hboth := (Imports.kept_sublist_merge functions).append ((hmain.cons mainTitle).cons [])
  rw [lines_assemble, List.flatMap_append]
  exact ((((hboth.cons functionTitle).cons []).trans (List.sublist_append_right _ _)).cons
    []).trans (List.sublist_append_right _ _)

variable {models : AnalysisModels} {code file : Text} {x y : Exchange} {r : ConversionResult}

theorem map_fst_macros (client : CompletionClient) (named : Fields) (x : Exchange) :
    (StateT.run (macros client named) x).1.map Prod.fst = named.map Prod.fst := by
  induction named generalizing x with
  | nil => rfl
  | cons m named ih =>
    let asked := StateT.run (client.instruct .macroBody (macroQuestion m.1 m.2)) x
    have hrun : (StateT.run (macros client (m :: named)) x).1 =
        (m.1, asked.1) :: (StateT.run (macros client named) asked.2).1 := rfl
    rw [hrun, List.map_cons, List.map_cons, ih]

theorem length_of_run_blocks {client : CompletionClient} {items : List Value}
    {converted : List Text}
    (h : StateT.run (ExceptT.run (blocks client items)) x = (.ok converted, y)) :
    converted.length = items.length := by
  induction items generalizing x converted with
  | nil =>
    cases h
    rfl
  | cons v items ih =>
    rw [blocks] at h
    obtain ⟨first, x₁, -, h⟩ := Converting.exists_of_run_bind h
    obtain ⟨more, x₂, hmore, h⟩ := Converting.exists_of_run_bind h
    cases h
    rw [List.length_cons, List.length_cons, ih hmore]

theorem exists_items_of_run_blocksIn {client : CompletionClient} {v : Value}
    {converted : List Text}
    (h : StateT.run (ExceptT.run (blocksIn client v)) x = (.ok converted, y)) :
    ∃ items, v.items = .ok items ∧ converted.length = items.length := by
  rw [blocksIn] at h
  obtain ⟨items, x₁, hitems, h⟩ := Converting.exists_of_run_bind h
  exact ⟨items, Converting.eq_of_run_lift hitems, length_of_run_blocks h⟩

/-- What a conversion has come to when it ends well. -/
structure Ends (models : AnalysisModels) (code : Text) (macros : Fields) (blocks : Value)
    (r : ConversionResult) (notes connections : Text) : Prop where
  dependencies_eq : DependencyAnalysis.ofCode models.dependencies code = .ok r.dependencies
  sources_eq : SourceAnalysis.ofCode models.sources code = .ok r.sources
  names_eq : r.functions.map Prod.fst = macros.map Prod.fst
  exists_items : ∃ items, blocks.items = .ok items ∧ r.blocks.length = items.length
  notes_eq : DependencyNotes.ofAnalysis (.object r.dependencies) = .ok notes
  connections_eq : Connection.ofAnalysis (.object r.sources) = .ok connections
  code_eq : r.code = assemble notes connections (Imports.merge (r.functions.map Prod.snd))
    (Imports.merge r.blocks)
  requirements_eq : r.requirements = Requirements.ofCode r.code

theorem exists_ends_of_run {macros : Fields} {blocks : Value}
    (h : StateT.run (ExceptT.run (run models (some ⟨.named macros, blocks⟩) code file)) x =
      (.ok r, y)) : ∃ notes connections, Ends models code macros blocks r notes connections := by
  rw [run] at h
  obtain ⟨sources, x₁, hsources, h⟩ := Converting.exists_of_run_bind h
  obtain ⟨dependencies, x₂, hdependencies, h⟩ := Converting.exists_of_run_bind h
  obtain ⟨divided, x₃, hdivided, h⟩ := Converting.exists_of_run_bind h
  obtain ⟨named, x₄, hnamed, h⟩ := Converting.exists_of_run_bind h
  obtain ⟨functions, x₅, hfunctions, h⟩ := Converting.exists_of_run_bind h
  obtain ⟨converted, x₆, hconverted, h⟩ := Converting.exists_of_run_bind h
  obtain ⟨connections, x₇, hconnections, h⟩ := Converting.exists_of_run_bind h
  obtain ⟨notes, x₈, hnotes, h⟩ := Converting.exists_of_run_bind h
  have hmacros : named = macros := (Except.ok.inj (Converting.eq_of_run_lift hnamed)).symm
  have hnames := map_fst_macros .standard named x₄
  rw [Converting.run_of_run_lift hfunctions, hmacros] at hnames
  cases h
  exact ⟨notes, connections, {
    dependencies_eq := Converting.eq_of_run_lift hdependencies
    sources_eq := Converting.eq_of_run_lift hsources
    names_eq := hnames
    exists_items := exists_items_of_run_blocksIn hconverted
    notes_eq := Converting.eq_of_run_lift hnotes
    connections_eq := Converting.eq_of_run_lift hconnections
    code_eq := by rw [← Imports.mergeOf_eq]; rfl
    requirements_eq := rfl }⟩

theorem exists_run_of_ofCode {parts : Option ProgramParts} {replies : List Reply}
    (h : (ofCode models parts replies code file).1 = .ok r) :
    ∃ x y, StateT.run (ExceptT.run (run models parts code file)) x = (.ok r, y) := by
  obtain ⟨-, x, -, hrun⟩ := Converting.exists_of_run_bind (Prod.ext h rfl)
  exact ⟨x, _, hrun⟩

theorem Ends.mem_imports {macros : Fields} {blocks : Value} {notes connections s : Text}
    (h : Ends models code macros blocks r notes connections) : s ∈ Imports.ofCode r.code ↔
      ∃ part ∈ notes :: connections :: (r.functions.map Prod.snd ++ r.blocks),
        s ∈ Imports.ofCode part := by
  rw [h.code_eq, mem_imports_assemble, Imports.mem_ofCode_merge, Imports.mem_ofCode_merge]
  simp only [List.exists_mem_cons_iff, List.mem_append, or_and_right, exists_or]

/-- A conversion that ends well, of macros that are given under their names, loses nothing. Its
analyses are those that the two models give. Its program has the import statements of the notes, the
connections, the functions and the blocks, and no others; what it requires is what these statements
require, in whatever order they are written down; and all other lines of the functions and then of
the blocks stand in it in their order. There is a function for each macro, in the order of the
macros, and a block for each block. -/
theorem assembled_of_ofCode {macros : Fields} {blocks : Value} {replies : List Reply}
    (h : (ofCode models (some ⟨.named macros, blocks⟩) replies code file).1 = .ok r) :
    DependencyAnalysis.ofCode models.dependencies code = .ok r.dependencies ∧
    SourceAnalysis.ofCode models.sources code = .ok r.sources ∧
    ∃ notes connections, DependencyNotes.ofAnalysis (.object r.dependencies) = .ok notes ∧
      Connection.ofAnalysis (.object r.sources) = .ok connections ∧
      r.functions.map Prod.fst = macros.map Prod.fst ∧
      (∃ items, blocks.items = .ok items ∧ r.blocks.length = items.length) ∧
      let parts := notes :: connections :: (r.functions.map Prod.snd ++ r.blocks)
      (∀ s, s ∈ Imports.ofCode r.code ↔ ∃ part ∈ parts, s ∈ Imports.ofCode part) ∧
      (∀ union : List Text, (∀ s, s ∈ union ↔ ∃ part ∈ parts, s ∈ Imports.ofCode part) →
        r.requirements = Requirements.ofCode (Text.unlines union)) ∧
      ((r.functions.map Prod.snd ++ r.blocks).flatMap Imports.kept).Sublist (lines r.code) := by
  obtain ⟨x, y, hrun⟩ := exists_run_of_ofCode h
  obtain ⟨notes, connections, hends⟩ := exists_ends_of_run hrun
  refine ⟨hends.dependencies_eq, hends.sources_eq, notes, connections, hends.notes_eq,
    hends.connections_eq, hends.names_eq, hends.exists_items, fun s ↦ hends.mem_imports,
    fun union hunion ↦ ?_, ?_⟩
  · rw [hends.requirements_eq]
    exact Requirements.ofCode_eq_of_statements fun s ↦ (hunion s).trans hends.mem_imports.symm
  · rw [hends.code_eq]
    exact kept_sublist_assemble _ _ _ _

/-- The function of a macro has an import statement inside, which comes first in the program. One
model does not answer, the other cannot be set up. -/
theorem assembled_of_ofCode_inner :
    let function : Text := "def f():\n    import numpy as np\n    return 1"
    let replies : List Reply := [.content (.text function), .failing "out of reach"]
    let models : AnalysisModels := ⟨.failing "no answer", .refused "no endpoint"⟩
    let converted := ofCode models (some ⟨.named [("f", .text "x")], .texts ["run;"]⟩) replies
      "%include 'a';" []
    ∃ r, converted.1 = .ok r ∧ r.functions = [(("f" : Text), function)] ∧
      ("import numpy as np" : Text) ∈ Imports.ofCode r.code ∧
      [("def f():" : Text), "    return 1"].Sublist (lines r.code) := by
  intro function replies models converted
  have hfunctions : converted.1.toOption.map ConversionResult.functions =
      some [(("f" : Text), function)] := by decide +kernel
  cases hr : converted.1 with
  | error fault =>
    rw [hr] at hfunctions
    cases hfunctions
  | ok r =>
    rw [hr] at hfunctions
    have hf : r.functions = [(("f" : Text), function)] := Option.some.inj hfunctions
    obtain ⟨-, -, notes, connections, -, -, -, -, himports, -, hlines⟩ := assembled_of_ofCode hr
    refine ⟨r, rfl, hf, (himports _).mpr ⟨function, by simp [hf], by decide +kernel⟩, ?_⟩
    have hkept : Imports.kept function = [("def f():" : Text), "    return 1"] := by decide +kernel
    rw [hf, List.map_singleton, List.singleton_append, List.flatMap_cons, hkept] at hlines
    exact (List.sublist_append_left _ _).trans hlines

end Conversion

end SasMigration
