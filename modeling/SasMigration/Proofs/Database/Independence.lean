import Mathlib.Data.List.Induction
import SasMigration.Proofs.Database.Session
import SasMigration.Proofs.Value.Association

namespace SasMigration

namespace Variables

variable {vars vars' : Variables} {code : Text}

theorem puts (name value : Text) : Puts (fun vars : Variables ↦ vars.put name value) name value :=
  ⟨rfl, fun _ _ ↦ rfl⟩

theorem get?_put (vars : Variables) (name value other : Text) :
    (vars.put name value).get? other = if other = name then some value else vars.get? other :=
  (puts name value).find? other vars

theorem get?_addCode (vars : Variables) (code name : Text) :
    (vars.addCode code).get? name = ((addCode [] code).get? name).or (vars.get? name) := by
  rw [addCode, addCode]
  generalize definition.findAll code = found
  -- The last definition is the one that counts.
  induction found using List.reverseRecOn with
  | nil => rfl
  | append_singleton found m ih =>
    simp only [List.foldl_append, List.foldl_cons, List.foldl_nil, get?_put]
    split
    · rfl
    · exact ih

/-- Every variable has the value that a program gives it. -/
def DefinedBy (vars : Variables) (code : Text) : Prop :=
  ∀ name value, vars.get? name = some value → (addCode [] code).get? name = some value

theorem definedBy_nil (code : Text) : DefinedBy [] code := by
  intro name value h
  cases h

theorem DefinedBy.get?_addCode (h : vars.DefinedBy code) (name : Text) :
    (vars.addCode code).get? name = (addCode [] code).get? name := by
  rw [Variables.get?_addCode]
  cases hvars : vars.get? name with
  | none => exact Option.or_none
  | some value =>
    rw [h name value hvars]
    rfl

theorem DefinedBy.addCode (h : vars.DefinedBy code) : (vars.addCode code).DefinedBy code := by
  intro name value hvalue
  rwa [h.get?_addCode] at hvalue

theorem resolve_congr (h : ∀ name, vars.get? name = vars'.get? name) (reference : Text) :
    vars.resolve reference = vars'.resolve reference := by
  rw [resolve.eq_def, resolve.eq_def]
  split
  · rw [h]
  · rfl

end Variables

theorem Library.ofCode_congr {vars vars' : Variables}
    (h : ∀ name, vars.get? name = vars'.get? name) (code : Text) :
    ofCode vars code = ofCode vars' code := by
  have hteradata : ofTeradata vars = ofTeradata vars' := by
    funext m
    rw [ofTeradata, ofTeradata, Variables.resolve_congr h, Variables.resolve_congr h]
  rw [ofCode, ofCode, ofTeradataAll, ofTeradataAll, hteradata]

namespace AnalysisStep

def keepsCode : AnalysisStep → Bool
  | setCode _ => false
  | _ => true

end AnalysisStep

namespace DatabaseAnalysis

variable {a : DatabaseAnalysis} {code : Text}

def outcome (libraries : List Library) (code : Text) : List Library × Option Fault :=
  match Library.scanCode libraries code with
  | (libraries, some fault) => (libraries, some fault)
  | (libraries, none) => (Library.usedAll libraries, none)

theorem run_outcome (a : DatabaseAnalysis) :
    (a.run.1.libraries, a.run.2) =
      outcome (Library.ofCode (a.assigned.addCode a.code) a.code) a.code := by
  have hscan : a.readVariables.load.scan =
      ({ a.readVariables.load with
          libraries := (Library.scanCode a.readVariables.load.libraries a.code).1 },
        (Library.scanCode a.readVariables.load.libraries a.code).2) := rfl
  have hload : a.readVariables.load.libraries =
      Library.ofCode (a.assigned.addCode a.code) a.code := rfl
  rw [run, hscan, outcome, hload]
  generalize Library.scanCode (Library.ofCode (a.assigned.addCode a.code) a.code) a.code = scanned
  obtain ⟨libraries, fault⟩ := scanned
  cases fault <;> rfl

/-- An analysis of a program that knows no more than the program itself says. -/
structure IsOf (a : DatabaseAnalysis) (code : Text) : Prop where
  code_eq : a.code = code
  definedBy : a.assigned.DefinedBy code

theorem isOf_start (code : Text) : (start code).IsOf code := ⟨rfl, Variables.definedBy_nil code⟩

theorem IsOf.readVariables (h : a.IsOf code) : a.readVariables.IsOf code := by
  obtain ⟨rfl, hdefined⟩ := h
  exact ⟨rfl, hdefined.addCode⟩

theorem IsOf.run (h : a.IsOf code) : a.run.1.IsOf code := by
  have hscan : a.readVariables.load.scan.1.IsOf code :=
    ⟨h.readVariables.code_eq, h.readVariables.definedBy⟩
  rw [DatabaseAnalysis.run]
  split
  · next a' fault he => exact he ▸ hscan
  · next a' he =>
    rw [he] at hscan
    exact ⟨hscan.code_eq, hscan.definedBy⟩

theorem IsOf.apply (h : a.IsOf code) {step : AnalysisStep} (hstep : step.keepsCode) :
    (step.apply a).1.IsOf code := by
  cases step with
  | setCode => cases hstep
  | resolve | generic | teradata => exact h
  | readVariables => exact h.readVariables
  | load | scan => exact ⟨h.code_eq, h.definedBy⟩
  | run => exact h.run

theorem IsOf.applyAll (h : a.IsOf code) {steps : List AnalysisStep}
    (hsteps : ∀ step ∈ steps, step.keepsCode) : (AnalysisStep.applyAll a steps).IsOf code := by
  induction steps generalizing a with
  | nil => exact h
  | cons step steps ih =>
    obtain ⟨hstep, hsteps⟩ := List.forall_mem_cons.mp hsteps
    exact ih (h.apply hstep) hsteps

theorem IsOf.run_eq (h : a.IsOf code) :
    (a.run.1.libraries, a.run.2) = ((start code).run.1.libraries, (start code).run.2) := by
  obtain ⟨rfl, hdefined⟩ := h
  rw [run_outcome, run_outcome, Library.ofCode_congr hdefined.get?_addCode]
  rfl

theorem run_apply_start (code : Text) :
    (AnalysisStep.run.apply (start code)).2 = (json code).map .text := by
  rw [AnalysisStep.apply, json, ofCode]
  generalize (start code).run = done
  obtain ⟨a, fault⟩ := done
  cases fault <;> rfl

end DatabaseAnalysis

/-- A step of a session on the data sources of a program. -/
inductive SourceStep
  | databases
  | renew
  | json
  | databasesJson

namespace SourceStep

/-- The data sources after a step, and what the step gives. A step that fails changes nothing. -/
def apply (r : SourceReport) : SourceStep → SourceReport × Except Fault Value
  | databases => (r, SourceReport.databasesOf r.code)
  | renew => after r.renew SourceReport.toValue
  | json => after r.complete fun r ↦ .text r.json
  | databasesJson => after r.complete fun r ↦ .text r.databasesJson
where
  after (done : Except Fault SourceReport) (f : SourceReport → Value) :
      SourceReport × Except Fault Value :=
    match done with
    | .ok r => (r, .ok (f r))
    | .error fault => (r, .error fault)

def applyAll (r : SourceReport) (steps : List SourceStep) : SourceReport :=
  steps.foldl (fun r step ↦ (step.apply r).1) r

end SourceStep

namespace SourceReport

variable {r : SourceReport} {code : Text}

/-- The data sources of a program, none but those that it describes. -/
structure IsOf (r : SourceReport) (code : Text) : Prop where
  code_eq : r.code = code
  databases : ∀ databases, r.databases = some databases → databasesOf code = .ok databases

theorem isOf_start (code : Text) : (start code).IsOf code := by
  refine ⟨rfl, fun databases h ↦ ?_⟩
  cases h

def found (code : Text) : Except Fault SourceReport :=
  (databasesOf code).map fun databases ↦ ⟨code, some databases⟩

theorem isOf_of_found (h : found code = .ok r) : r.IsOf code := by
  rw [found] at h
  cases hfound : databasesOf code with
  | error fault =>
    rw [hfound] at h
    cases h
  | ok databases =>
    rw [hfound] at h
    cases h
    exact ⟨rfl, fun databases' h ↦ by rw [hfound, Option.some.inj h]⟩

theorem IsOf.renew_eq (h : r.IsOf code) : r.renew = found code := by
  obtain ⟨rfl, -⟩ := h
  rfl

theorem IsOf.complete_eq (h : r.IsOf code) : r.complete = found code := by
  obtain ⟨program, databases⟩ := r
  obtain ⟨rfl, hdatabases⟩ := h
  cases databases with
  | none => rfl
  | some databases =>
    rw [found, hdatabases databases rfl]
    rfl

theorem IsOf.after (h : r.IsOf code) (f : SourceReport → Value) :
    (SourceStep.apply.after r (found code) f).1.IsOf code := by
  cases hfound : found code with
  | ok r' => exact isOf_of_found hfound
  | error fault => exact h

theorem IsOf.apply (h : r.IsOf code) (step : SourceStep) : (step.apply r).1.IsOf code := by
  cases step with
  | databases => exact h
  | renew =>
    rw [SourceStep.apply, h.renew_eq]
    exact h.after _
  | json | databasesJson =>
    rw [SourceStep.apply, h.complete_eq]
    exact h.after _

theorem IsOf.applyAll (h : r.IsOf code) (steps : List SourceStep) :
    (SourceStep.applyAll r steps).IsOf code := by
  induction steps generalizing r with
  | nil => exact h
  | cons step steps ih => exact ih (h.apply step)

theorem snd_after (r r' : SourceReport) (done : Except Fault SourceReport)
    (f : SourceReport → Value) :
    (SourceStep.apply.after r done f).2 = (SourceStep.apply.after r' done f).2 := by
  cases done <;> rfl

theorem IsOf.apply_eq (h : r.IsOf code) (step : SourceStep) :
    (step.apply r).2 = (step.apply (start code)).2 := by
  have hstart := isOf_start code
  cases step with
  | databases =>
    obtain ⟨rfl, -⟩ := h
    rfl
  | renew =>
    rw [SourceStep.apply, SourceStep.apply, h.renew_eq, hstart.renew_eq]
    exact snd_after ..
  | json | databasesJson =>
    rw [SourceStep.apply, SourceStep.apply, h.complete_eq, hstart.complete_eq]
    exact snd_after ..

end SourceReport

namespace DatabaseAnalysis

/-- What a session on one program gives does not depend on the steps taken before. The whole
analysis gives the text, or the fault, and leaves the libraries that it does as the first step, and
so does every step on the data sources of a program. -/
theorem run_after_session (code : Text) :
    (∀ steps : List AnalysisStep, (∀ step ∈ steps, step.keepsCode) →
      let done := AnalysisStep.run.apply (AnalysisStep.applyAll (start code) steps)
      done.2 = (AnalysisStep.run.apply (start code)).2 ∧ done.2 = (json code).map .text ∧
        done.1.libraries = (AnalysisStep.run.apply (start code)).1.libraries) ∧
    ∀ (steps : List SourceStep) (step : SourceStep),
      (step.apply (SourceStep.applyAll (.start code) steps)).2 = (step.apply (.start code)).2 := by
  refine ⟨fun steps hsteps ↦ ?_, fun steps step ↦ ?_⟩
  · have hsession := (isOf_start code).applyAll hsteps
    obtain ⟨hlibraries, hfault⟩ := Prod.mk.inj hsession.run_eq
    have hgives : (AnalysisStep.run.apply (AnalysisStep.applyAll (start code) steps)).2 =
        (AnalysisStep.run.apply (start code)).2 := by
      rw [AnalysisStep.apply, AnalysisStep.apply, hlibraries, hfault]
    exact ⟨hgives, hgives.trans (run_apply_start code), hlibraries⟩
  · exact ((SourceReport.isOf_start code).applyAll steps).apply_eq step

/-- Libraries that are loaded before the variables are read are scanned without a fault, but the
analysis ends with one. -/
theorem run_after_session_faulty :
    let code : Text := "%let s=(;libname a teradata schema=&s;proc sql;quit;"
    let steps := [AnalysisStep.load, .scan, .run, .readVariables, .resolve "&s"]
    (AnalysisStep.scan.apply (AnalysisStep.applyAll (start code) [.load])).2.isOk = true ∧
      (AnalysisStep.run.apply (start code)).2.isOk = false ∧
      (AnalysisStep.run.apply (AnalysisStep.applyAll (start code) steps)).2 =
        (AnalysisStep.run.apply (start code)).2 := by
  intro code steps
  refine ⟨by decide +kernel, by decide +kernel, ?_⟩
  exact ((run_after_session code).1 steps (by decide)).1

end DatabaseAnalysis

end SasMigration
