import Mathlib.Data.List.Basic
import Mathlib.Tactic.Common
import SasMigration.CommandLine.Analyze
import SasMigration.Proofs.Value.RoundTrip

namespace SasMigration

open Value

theorem Value.plain_texts (deep : Nat) (ts : List Text) : Plain (deep + 1) (.texts ts) := by
  refine .list fun v hv ↦ ?_
  obtain ⟨t, -, rfl⟩ := List.mem_map.mp hv
  exact .text deep t

theorem TableUse.plain_toValue (u : TableUse) : Plain 2 u.toValue := by
  refine .object (by simp only [List.map_cons, List.map_nil]; decide) fun field hfield ↦ ?_
  rcases List.mem_pair.mp hfield with rfl | rfl
  · cases u.table with
    | none => exact .null 1
    | some t => exact .text 1 t
  · exact plain_texts 0 _

theorem Library.plain_toValue (l : Library) : Plain 4 l.toValue := by
  refine .object (by simp only [List.map_cons, List.map_nil]; decide) fun field hfield ↦ ?_
  simp only [List.mem_cons, List.not_mem_nil, or_false] at hfield
  rcases hfield with rfl | rfl | rfl | rfl
  · exact .text 3 _
  · exact .text 3 _
  · exact .text 3 _
  · refine .list fun v hv ↦ ?_
    obtain ⟨u, -, rfl⟩ := List.mem_map.mp hv
    exact u.plain_toValue

theorem DatabaseAnalysis.plain_value (libraries : List Library) : Plain 5 (value libraries) := by
  refine .list fun v hv ↦ ?_
  obtain ⟨l, -, rfl⟩ := List.mem_map.mp hv
  exact l.plain_toValue

namespace DatabaseAnalysis

/-- The document on databases, or on all data sources, of which they are the only ones. -/
def document (databaseOnly : Bool) (databases : Value) : Value :=
  if databaseOnly then databases else .object [("databases", databases)]

theorem ofJson_document (databaseOnly ascii : Bool) (libraries : List Library) (blanks : Text)
    (hblanks : ∀ c ∈ blanks, isJsonBlank c) :
    ofJson ((document databaseOnly (value libraries)).json ascii ++ blanks) =
      .ok (document databaseOnly (value libraries)) := by
  cases databaseOnly with
  | true => exact (plain_value libraries).ofJson_json (by decide) ascii blanks hblanks
  | false =>
    have hplain : Plain 6 (document false (value libraries)) := by
      refine .object (by simp) fun field hfield ↦ ?_
      rw [List.mem_singleton.mp hfield]
      exact plain_value libraries
    exact hplain.ofJson_json (by decide) ascii blanks hblanks

theorem load_document (databaseOnly ascii : Bool) (libraries : List Library) :
    Value.load ((document databaseOnly (value libraries)).json ascii) =
      .ok (document databaseOnly (value libraries)) := by
  have hread := ofJson_document databaseOnly ascii libraries [] (by simp)
  rw [List.append_nil] at hread
  rw [Value.load, hread]
  rfl

end DatabaseAnalysis

namespace SourceReport

theorem ofCode_eq (code : Text) :
    ofCode code = (DatabaseAnalysis.ofCode code).map fun libraries ↦
      ⟨code, some (DatabaseAnalysis.value libraries)⟩ := by
  change (databasesOf code).map _ = _
  rw [databasesOf, DatabaseAnalysis.json]
  cases DatabaseAnalysis.ofCode code with
  | error fault => rfl
  | ok libraries =>
    have hload : load ((DatabaseAnalysis.value libraries).json true) =
        .ok (DatabaseAnalysis.value libraries) := DatabaseAnalysis.load_document true true libraries
    change (load ((DatabaseAnalysis.value libraries).json true)).map _ = _
    rw [hload]
    rfl

end SourceReport

theorem Command.run_bind_of_ok {α β : Type} {first : Command α} {next : α → Command β}
    {c c' : Console} {a : α} (h : StateT.run (ExceptT.run first) c = (.ok a, c')) :
    StateT.run (ExceptT.run (first >>= next)) c = StateT.run (ExceptT.run (next a)) c' := by
  rw [ExceptT.run_bind, StateT.run_bind, h]
  rfl

namespace AnalyzeProgram

def opening (path : Text) : Text := if path.isEmpty then invitation ++ "\n" else []

def source (path : Text) (c : Console) : Except Fault Text :=
  if path.isEmpty then .ok c.input else c.files.textAt path

theorem run_code {path code : Text} {c : Console} (h : source path c = .ok code) :
    StateT.run (ExceptT.run (AnalyzeProgram.code path)) c =
      (.ok code, { c with output := c.output ++ opening path }) := by
  rw [source] at h
  rw [AnalyzeProgram.code, opening]
  split
  · next hpath =>
    rw [if_pos hpath] at h
    cases h
    simp only [← List.append_assoc]
    rfl
  · next hpath =>
    rw [if_neg hpath] at h
    have hread : StateT.run (ExceptT.run (Command.textAt path)) c = (.ok (.ok code), c) := by
      rw [← h]
      rfl
    rw [Command.run_bind_of_ok hread, List.append_nil]
    rfl

theorem run_of_report {name : Text} {args : List Text} {values : Fields} {c : Console}
    {code result : Text} (hread : spec.read name args = .ok values)
    (hprinted : values.textAt "output" = [])
    (hcode : source (values.textAt "file") c = .ok code)
    (h : report (values.flagAt "database_only") (values.flagAt "pretty") code = .ok result) :
    Command.run (run name args) c =
      ⟨some 0, none,
        { c with output := c.output ++ opening (values.textAt "file") ++ result ++ "\n" }⟩ := by
  have hvalues : StateT.run (ExceptT.run (Command.arguments spec name args)) c =
      (.ok values, c) := by
    rw [Command.arguments, hread]
    rfl
  rw [Command.run, run, Command.run_bind_of_ok hvalues, Command.run_bind_of_ok (run_code hcode),
    hprinted, List.isEmpty_nil, Bool.and_true, h]
  rfl

theorem report_of_ofCode {code : Text} {libraries : List Library}
    (h : DatabaseAnalysis.ofCode code = .ok libraries) (databaseOnly pretty : Bool) :
    report databaseOnly pretty code =
      .ok ((DatabaseAnalysis.document databaseOnly (DatabaseAnalysis.value libraries)).json
        !pretty) := by
  have hresult : (if databaseOnly then
      (⟨code, some (DatabaseAnalysis.value libraries)⟩ : SourceReport).databasesJson
      else (⟨code, some (DatabaseAnalysis.value libraries)⟩ : SourceReport).json) =
      (DatabaseAnalysis.document databaseOnly (DatabaseAnalysis.value libraries)).json true := by
    cases databaseOnly <;> rfl
  rw [report, SourceReport.ofCode_eq, h]
  simp only [Except.map, bind, Except.bind, hresult]
  cases pretty with
  | false => rfl
  | true =>
    rw [if_pos rfl, DatabaseAnalysis.load_document]
    rfl

/-- Two sets of arguments that ask for the same report to be printed, the second for a pretty
one. -/
structure DifferInPretty (plain pretty : Fields) : Prop where
  file : pretty.textAt "file" = plain.textAt "file"
  part : pretty.flagAt "database_only" = plain.flagAt "database_only"
  printed : plain.textAt "output" = []
  prettyPrinted : pretty.textAt "output" = []
  notPretty : plain.flagAt "pretty" = false
  isPretty : pretty.flagAt "pretty" = true

theorem runs_print_one_value {name : Text} {args args' : List Text} {values values' : Fields}
    {c : Console} {code : Text} {libraries : List Library}
    (hread : spec.read name args = .ok values) (hread' : spec.read name args' = .ok values')
    (hdiffer : DifferInPretty values values')
    (hcode : source (values.textAt "file") c = .ok code)
    (h : DatabaseAnalysis.ofCode code = .ok libraries) :
    ∃ plain pretty,
      (Command.run (run name args) c).console.output =
        c.output ++ opening (values.textAt "file") ++ plain ++ "\n" ∧
      (Command.run (run name args') c).console.output =
        c.output ++ opening (values.textAt "file") ++ pretty ++ "\n" ∧
      ∀ printed ∈ [plain, pretty], ofJson (printed ++ "\n") =
        .ok (DatabaseAnalysis.document (values.flagAt "database_only")
          (DatabaseAnalysis.value libraries)) := by
  have hreport := report_of_ofCode h (values.flagAt "database_only")
  have hrun := run_of_report hread hdiffer.printed hcode (hreport _)
  have hcode' : source (values'.textAt "file") c = .ok code := by rw [hdiffer.file, hcode]
  have hrun' := run_of_report hread' hdiffer.prettyPrinted hcode' (by rw [hdiffer.part, hreport])
  refine ⟨_, _, by rw [hrun], by rw [hrun', hdiffer.file], fun printed hprinted ↦ ?_⟩
  have hblank : ∀ c ∈ ['\n'], isJsonBlank c := List.forall_mem_singleton.mpr rfl
  have hread (ascii : Bool) := DatabaseAnalysis.ofJson_document (values.flagAt "database_only")
    ascii libraries "\n" hblank
  rcases List.mem_pair.mp hprinted with rfl | rfl
  · exact hread _
  · exact hread _

end AnalyzeProgram

namespace SourceReport

open AnalyzeProgram

/-- All ways in which the databases of a program are given out agree. Where the analysis gives a
text, reading it back and writing it again gives the same text, the text on all data sources is
read as an object with the same value, and the program that prints a report prints it pretty or not
with the same value. Where the analysis fails, they fail in the same way. -/
theorem outputs_agree (code : Text) :
    (∀ fault, DatabaseAnalysis.json code = .error fault →
      (ofCode code).map databasesJson = .error fault ∧
      (ofCode code).map SourceReport.json = .error fault) ∧
    ∀ described, DatabaseAnalysis.json code = .ok described →
      (ofCode code).map databasesJson = .ok described ∧
      ∃ v, ofJson described = .ok v ∧
        (∃ whole, (ofCode code).map SourceReport.json = .ok whole ∧
          ofJson whole = .ok (.object [("databases", v)])) ∧
        ∀ name args args' values values' c, spec.read name args = .ok values →
          spec.read name args' = .ok values' → DifferInPretty values values' →
          source (values.textAt "file") c = .ok code →
          ∃ plain pretty,
            (Command.run (run name args) c).console.output =
              c.output ++ opening (values.textAt "file") ++ plain ++ "\n" ∧
            (Command.run (run name args') c).console.output =
              c.output ++ opening (values.textAt "file") ++ pretty ++ "\n" ∧
            ∀ printed ∈ [plain, pretty], ofJson (printed ++ "\n") = .ok
              (if values.flagAt "database_only" then v else .object [("databases", v)]) := by
  rw [ofCode_eq, DatabaseAnalysis.json]
  cases h : DatabaseAnalysis.ofCode code with
  | error fault =>
    refine ⟨fun fault' hfault ↦ ?_, fun described hdescribed ↦ ?_⟩
    · cases hfault
      exact ⟨rfl, rfl⟩
    · cases hdescribed
  | ok libraries =>
    refine ⟨fun fault hfault ↦ ?_, fun described hdescribed ↦ ?_⟩
    · cases hfault
    cases hdescribed
    have hread (databaseOnly : Bool) :=
      DatabaseAnalysis.ofJson_document databaseOnly true libraries [] (by simp)
    simp only [List.append_nil] at hread
    exact ⟨rfl, _, hread true, ⟨_, rfl, hread false⟩,
      fun _ _ _ _ _ _ hvalues hvalues' hdiffer hcode ↦
        runs_print_one_value hvalues hvalues' hdiffer hcode h⟩

theorem outputs_agree_accented :
    let code : Text := "libname é oracle p=\"\\\";proc sql;select * from é.t;quit;"
    let c := Console.start .empty code
    ∃ described v plain pretty, DatabaseAnalysis.json code = .ok described ∧
      (ofCode code).map databasesJson = .ok described ∧ ofJson described = .ok v ∧
      (Command.run (run "analyze" []) c).console.output = c.output ++ opening [] ++ plain ++ "\n" ∧
      (Command.run (run "analyze" ["-p"]) c).console.output =
        c.output ++ opening [] ++ pretty ++ "\n" ∧
      ∀ printed ∈ [plain, pretty], ofJson (printed ++ "\n") = .ok (.object [("databases", v)]) := by
  intro code c
  obtain ⟨described, h⟩ : ∃ described, DatabaseAnalysis.json code = .ok described := by
    cases h : DatabaseAnalysis.json code with
    | ok described => exact ⟨described, rfl⟩
    | error fault =>
      have hok : (DatabaseAnalysis.json code).isOk = true := by decide +kernel
      rw [h] at hok
      cases hok
  obtain ⟨hsame, v, hv, -, hprint⟩ := (outputs_agree code).2 described h
  obtain ⟨plain, pretty, hprinted⟩ :=
    hprint "analyze" [] ["-p"] _ _ c rfl rfl ⟨rfl, rfl, rfl, rfl, rfl, rfl⟩ rfl
  exact ⟨described, v, plain, pretty, h, hsame, hv, hprinted⟩

end SourceReport

end SasMigration
