import SasMigration.Database.Analysis
import SasMigration.Proofs.Database.Tables

namespace SasMigration

/-- A step of a session. -/
inductive AnalysisStep
  | setCode (code : Text)
  | readVariables
  | resolve (reference : Text)
  | generic
  | teradata
  | load
  | scan
  | run

namespace Operation

def names : List Text := ["SELECT", "UPDATE", "INSERT", "DELETE", "CREATE VIEW", "SELECT INTO"]

theorem name_mem_names (op : Operation) : op.name ∈ names := by cases op <;> decide

theorem name_injective : Function.Injective name := by
  intro op op' h
  cases op <;> cases op' <;> first | rfl | exact absurd h (by decide)

end Operation

namespace AnalysisStep

def result (value : Value) : Option Fault → Except Fault Value
  | none => .ok value
  | some fault => .error fault

theorem eq_none_of_isOk_result {value : Value} {fault : Option Fault}
    (h : (result value fault).isOk) : fault = none := by
  cases fault with
  | none => rfl
  | some fault => cases h

def apply (a : DatabaseAnalysis) : AnalysisStep → DatabaseAnalysis × Except Fault Value
  | setCode code => ({ a with code }, .ok .null)
  | readVariables => (a.readVariables, .ok .null)
  | resolve reference => (a, .ok (.text (a.assigned.resolve reference)))
  | generic => (a, .ok (DatabaseAnalysis.value (Library.generic a.code)))
  | teradata => (a, .ok (DatabaseAnalysis.value (Library.ofTeradataAll a.assigned a.code)))
  | load => (a.load, .ok .null)
  | scan => (a.scan.1, result .null a.scan.2)
  | run => (a.run.1, result (.text ((DatabaseAnalysis.value a.run.1.libraries).json true)) a.run.2)

def applyAll (a : DatabaseAnalysis) (steps : List AnalysisStep) : DatabaseAnalysis :=
  steps.foldl (fun a step ↦ (step.apply a).1) a

end AnalysisStep

namespace Library

variable {l : Library} {ls : List Library}

theorem distinct_ofCode {vars : Variables} {code : Text} (h : l ∈ ofCode vars code) :
    TableUse.Distinct l.tables := by
  rcases List.mem_append.mp h with h | h
  · obtain ⟨m, -, rfl⟩ := List.mem_map.mp (List.mem_of_mem_filter h)
    exact TableUse.distinct_nil
  · obtain ⟨m, -, rfl⟩ := List.mem_map.mp h
    exact ⟨List.nodup_singleton _, fun t ht ↦ List.mem_singleton.mp ht ▸ List.nodup_nil⟩

theorem distinct_scan (h : TableUse.Distinct l.tables) (sql : Text) :
    TableUse.Distinct (l.scan sql).1.tables := by
  have hfirst : TableUse.Distinct
      (if l.kind = teradata then TableUse.scan sql l.tables else (l.tables, [], none)).1 := by
    split
    · exact h.scan sql
    · exact h
  rw [scan]
  revert hfirst
  generalize (if l.kind = teradata then TableUse.scan sql l.tables else (l.tables, [], none)) = r
  obtain ⟨tables, found, fault⟩ := r
  intro hfirst
  cases fault with
  | some fault => exact hfirst
  | none =>
    dsimp only
    split
    · exact hfirst
    · exact hfirst.mergeAll _

theorem distinct_scanAll (h : ∀ l ∈ ls, TableUse.Distinct l.tables) (sql : Text) :
    ∀ l ∈ (scanAll sql ls).1, TableUse.Distinct l.tables := by
  induction ls with
  | nil => exact h
  | cons l ls ih =>
    obtain ⟨hl, hls⟩ := List.forall_mem_cons.mp h
    have hscan := distinct_scan hl sql
    rw [scanAll]
    split
    · next l' fault he =>
      rw [he] at hscan
      exact List.forall_mem_cons.mpr ⟨hscan, hls⟩
    · next l' he =>
      rw [he] at hscan
      exact List.forall_mem_cons.mpr ⟨hscan, ih hls⟩

theorem distinct_scanBlocks (h : ∀ l ∈ ls, TableUse.Distinct l.tables) (blocks : List Text) :
    ∀ l ∈ (scanBlocks ls blocks).1, TableUse.Distinct l.tables := by
  induction blocks generalizing ls with
  | nil => exact h
  | cons sql blocks ih =>
    have hscan := distinct_scanAll h sql
    rw [scanBlocks]
    split
    · next ls' fault he => exact he ▸ hscan
    · next ls' he =>
      rw [he] at hscan
      exact ih hscan

theorem distinct_usedAll (h : ∀ l ∈ ls, TableUse.Distinct l.tables) :
    ∀ l ∈ usedAll ls, TableUse.Distinct l.tables := by
  intro l hl
  obtain ⟨l', hl', rfl⟩ := List.mem_map.mp (List.mem_of_mem_filter hl)
  exact (h l' hl').filter _

theorem used_of_mem_usedAll (h : l ∈ usedAll ls) :
    l.tables ≠ [] ∧ ∀ t ∈ l.tables, t.operations ≠ [] := by
  obtain ⟨hl, hne⟩ := List.mem_filter.mp h
  obtain ⟨l', -, rfl⟩ := List.mem_map.mp hl
  refine ⟨by simpa using hne, fun t ht ↦ ?_⟩
  simpa using (List.mem_filter.mp ht).2

end Library

namespace DatabaseAnalysis

variable {a : DatabaseAnalysis}

/-- No table of a library is listed twice, and no operation of a table. -/
def Distinct (a : DatabaseAnalysis) : Prop := ∀ l ∈ a.libraries, TableUse.Distinct l.tables

theorem distinct_load (a : DatabaseAnalysis) : a.load.Distinct :=
  fun _ h ↦ Library.distinct_ofCode h

theorem Distinct.scan (h : a.Distinct) : a.scan.1.Distinct := Library.distinct_scanBlocks h _

theorem distinct_run (a : DatabaseAnalysis) : a.run.1.Distinct := by
  have hscan : a.readVariables.load.scan.1.Distinct := (distinct_load _).scan
  rw [run]
  split
  · next a' fault he => exact he ▸ hscan
  · next a' he =>
    rw [he] at hscan
    exact Library.distinct_usedAll hscan

theorem used_of_run (h : a.run.2 = none) {l : Library} (hl : l ∈ a.run.1.libraries) :
    l.tables ≠ [] ∧ ∀ t ∈ l.tables, t.operations ≠ [] := by
  rw [run] at h hl
  revert h hl
  generalize a.readVariables.load.scan = r
  obtain ⟨a', fault⟩ := r
  intro h hl
  cases fault with
  | some fault => cases h
  | none => exact Library.used_of_mem_usedAll hl

theorem Distinct.apply (h : a.Distinct) (step : AnalysisStep) : (step.apply a).1.Distinct := by
  cases step with
  | setCode | readVariables | resolve | generic | teradata => exact h
  | load => exact distinct_load a
  | scan => exact h.scan
  | run => exact distinct_run a

theorem Distinct.applyAll (h : a.Distinct) (steps : List AnalysisStep) :
    (AnalysisStep.applyAll a steps).Distinct := by
  induction steps generalizing a with
  | nil => exact h
  | cons step steps ih => exact ih (h.apply step)

/-- In every state of a session the tables of a library, and the operations of a table, have
distinct names, the latter among six. An analysis that returns leaves only tables with an operation
and libraries with a table. -/
theorem distinct_names_applyAll (code : Text) (steps : List AnalysisStep) :
    let a := AnalysisStep.applyAll (start code) steps
    (∀ l ∈ a.libraries, (l.tables.map TableUse.table).Nodup ∧
      ∀ t ∈ l.tables, (t.operations.map Operation.name).Nodup ∧
        ∀ name ∈ t.operations.map Operation.name, name ∈ Operation.names) ∧
    ((AnalysisStep.run.apply a).2.isOk → ∀ l ∈ (AnalysisStep.run.apply a).1.libraries,
      l.tables ≠ [] ∧ ∀ t ∈ l.tables, t.operations ≠ []) := by
  intro a
  have hstart : (start code).Distinct := fun l hl ↦ by cases hl
  have ha : a.Distinct := hstart.applyAll steps
  refine ⟨fun l hl ↦ ⟨(ha l hl).tables, fun t ht ↦ ⟨?_, fun name hname ↦ ?_⟩⟩, fun h l hl ↦ ?_⟩
  · exact ((ha l hl).operations t ht).map Operation.name_injective
  · obtain ⟨op, -, rfl⟩ := List.mem_map.mp hname
    exact op.name_mem_names
  · exact used_of_run (AnalysisStep.eq_none_of_isOk_result h) hl

/-- One table is mentioned twice, and another library not at all. -/
theorem distinct_names_applyAll_twice :
    let code : Text := "libname a x; libname b y; proc sql; join a.t join A.t quit;"
    let a := AnalysisStep.applyAll (start code) [.load, .scan]
    (AnalysisStep.run.apply a).2.isOk ∧
      (AnalysisStep.run.apply a).1.libraries = [⟨"a", "x", [], [⟨some "t", [.select]⟩]⟩] ∧
      ∀ l ∈ (AnalysisStep.run.apply a).1.libraries,
        l.tables ≠ [] ∧ ∀ t ∈ l.tables, t.operations ≠ [] := by
  intro code a
  have h : (AnalysisStep.run.apply a).2.isOk := by decide +kernel
  exact ⟨h, by decide +kernel, (distinct_names_applyAll code [.load, .scan]).2 h⟩

end DatabaseAnalysis

end SasMigration
