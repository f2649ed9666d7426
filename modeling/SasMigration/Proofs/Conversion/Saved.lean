import Mathlib
import SasMigration.Conversion.Output
import SasMigration.Proofs.Files.Bytes
import SasMigration.Proofs.Files.Writing
import SasMigration.Proofs.Text.Letter
import SasMigration.Proofs.Value.Piecewise

namespace SasMigration.ConversionOutput

open FileTree FileAction

variable {result functions : Fields} {directory base key : Text} {t t' : FileTree} {p : Place}

def analysisKeys : List Text := ["data_source_analysis", "dependency_analysis"]

def functionFile (name : Text) : List Text := ["functions", name ++ ".py"]

def analysisFile (key : Text) : List Text := ["analysis", key ++ ".json"]

/-- The files hold a result: its program, its requirements as lines, its functions, and analyses
that are read back as they were. -/
structure Holds (t : FileTree) (result : Fields) (directory base : Text) : Prop where
  program : ∃ code, result.get? "python_code" = some (.text code) ∧
    t.bytesAt (Path.joinAll directory [base ++ ".py"]) = .ok (Utf8.encode code)
  requirements : ∃ v lines, result.get? "requirements" = some v ∧
    v.items = .ok (lines.map .text) ∧
    t.bytesAt (Path.joinAll directory ["requirements.txt"]) = .ok (Utf8.encode (Text.unlines lines))
  functions : ∃ sources : List (Text × Text),
    result.get? "functions" = some (.object (sources.map fun s ↦ (s.1, .text s.2))) ∧
    ∀ s ∈ sources, t.bytesAt (Path.joinAll directory (functionFile s.1)) =
      .ok (Utf8.encode s.2)
  analyses : ∀ key ∈ analysisKeys, ∃ v, result.get? key = some v ∧
    (t.textAt (Path.joinAll directory (analysisFile key))).bind Value.load = .ok v

/-! Names -/

/-- What is written of a result. -/
structure Contents where
  code : Text
  lines : List Text
  sources : List (Text × Text)
  analyses : List (Text × Text)

namespace Contents

variable {c : Contents}

def programFile (c : Contents) (base : Text) : List Text × List UInt8 :=
  ([base ++ ".py"], Utf8.encode c.code)

def requirementsFile (c : Contents) : List Text × List UInt8 :=
  (["requirements.txt"], Utf8.encode (Text.unlines c.lines))

def functionFiles (c : Contents) : List (List Text × List UInt8) :=
  c.sources.map fun s ↦ (functionFile s.1, Utf8.encode s.2)

def analysisFiles (c : Contents) : List (List Text × List UInt8) :=
  c.analyses.map fun a ↦ (analysisFile a.1, Utf8.encode a.2)

def files (c : Contents) (base : Text) : List (List Text × List UInt8) :=
  c.programFile base :: c.requirementsFile :: (c.functionFiles ++ c.analysisFiles)

/-- The contents are those of a result, with its analyses as they are written. -/
structure Of (c : Contents) (result : Fields) : Prop where
  code_eq : result.get? "python_code" = some (.text c.code)
  lines_eq : ∃ v, result.get? "requirements" = some v ∧ v.items = .ok (c.lines.map .text)
  sources_eq : result.get? "functions" = some (.object (c.sources.map fun s ↦ (s.1, .text s.2)))
  keys_eq : c.analyses.map (·.1) = analysisKeys
  analyses_eq : ∀ a ∈ c.analyses, ∃ v, result.get? a.1 = some v ∧
    joined (v.pieces true) = (a.2, none)

end Contents

theorem Contents.Of.holds {c : Contents} (h : c.Of result)
    (hanalyses : ∀ key ∈ analysisKeys, ∀ v, result.get? key = some v → v.Exact)
    (hfiles : ∀ f ∈ c.files base, t.bytesAt (Path.joinAll directory f.1) = .ok f.2) :
    Holds t result directory base where
  program := ⟨c.code, h.code_eq, hfiles (c.programFile base) List.mem_cons_self⟩
  requirements := by
    obtain ⟨v, hv, hitems⟩ := h.lines_eq
    exact ⟨v, c.lines, hv, hitems,
      hfiles c.requirementsFile (List.mem_cons_of_mem _ List.mem_cons_self)⟩
  functions := by
    refine ⟨c.sources, h.sources_eq, fun s hs ↦ hfiles (functionFile s.1, Utf8.encode s.2) ?_⟩
    refine List.mem_cons_of_mem _ (List.mem_cons_of_mem _ (List.mem_append_left _ ?_))
    exact List.mem_map_of_mem hs
  analyses := by
    intro key hkey
    obtain ⟨a, ha, rfl⟩ := List.mem_map.mp (h.keys_eq ▸ hkey)
    obtain ⟨v, hv, hjoined⟩ := h.analyses_eq a ha
    obtain ⟨hreturn, hload⟩ := (hanalyses a.1 hkey v hv).load_of_joined hjoined
    have hbytes := hfiles (analysisFile a.1, Utf8.encode a.2) (List.mem_cons_of_mem _
      (List.mem_cons_of_mem _ (List.mem_append_right _ (List.mem_map_of_mem ha))))
    refine ⟨v, hv, ?_⟩
    rw [textAt_eq_ok hreturn hbytes]
    exact hload

end SasMigration.ConversionOutput
