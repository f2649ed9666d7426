import SasMigration.Proofs.Conversion.Hoisting
import SasMigration.Proofs.Conversion.LeadingModule

namespace SasMigration.Requirements

open Imports (Statement topLevel topLevel_eq_nil_iff mem_ofCode_iff)
open Text (strip)

variable {code p : Text}

/-- The packages of a program that do not come with the language, each once and in order. -/
def packages (code : Text) : List Text :=
  (Text.distinctSorted ((Imports.ofCode code).filterMap package?)).filter
    fun p ↦ !standard.contains p

theorem mem_packages : p ∈ packages code ↔
    p ∉ standard ∧ ∃ st : Statement, st.IsOn code ∧ package? st.text = some p := by
  rw [packages, List.mem_filter, Text.mem_distinctSorted, List.mem_filterMap, and_comm]
  refine and_congr (by simp) ?_
  constructor
  · rintro ⟨t, ht, hp⟩
    obtain ⟨st, hst, rfl⟩ := mem_ofCode_iff.mp ht
    exact ⟨st, hst, hp⟩
  · rintro ⟨st, hst, hp⟩
    exact ⟨st.text, mem_ofCode_iff.mpr ⟨st, hst, rfl⟩, hp⟩

theorem requirement_eq_nil_iff : requirement p = [] ↔ p = [] := by
  have hknown : (known.all fun k ↦ !k.1.isEmpty && !k.2.isEmpty) = true := by decide
  rw [requirement]
  cases hfind : known.find? fun k ↦ k.1 == p with
  | none => rfl
  | some k =>
    have hk := List.all_eq_true.mp hknown k (List.mem_of_find?_eq_some hfind)
    have hp : k.1 = p := by simpa using List.find?_some hfind
    rw [Bool.and_eq_true, Bool.not_eq_true', Bool.not_eq_true', List.isEmpty_eq_false_iff,
      List.isEmpty_eq_false_iff, hp] at hk
    simp [hk.1, hk.2]

theorem nil_mem_ofCode_iff : [] ∈ ofCode code ↔ [] ∈ packages code := by
  have hcode : ofCode code = (packages code).map requirement := rfl
  rw [hcode, List.mem_map]
  constructor
  · rintro ⟨p, hp, hnil⟩
    rwa [requirement_eq_nil_iff.mp hnil] at hp
  · intro hmem
    exact ⟨[], hmem, requirement_eq_nil_iff.mpr rfl⟩

theorem mem_packages_of_plain (h : ∀ st : Statement, st.IsOn code → st.IsPlain) :
    p ∈ packages code ↔
      p ∉ standard ∧ ∃ st : Statement, st.IsOn code ∧ p = topLevel st.leading := by
  rw [mem_packages]
  refine and_congr_right fun _ ↦ exists_congr fun st ↦ and_congr_right fun hst ↦ ?_
  rw [(package?_eq_leading_iff st).mpr (h st hst), Option.some_inj, eq_comm]

/-- The requirements of a program are those of its packages in order. A statement gives the package
of its leading module exactly if it is plain, and none exactly if no space follows its keyword.
Where all statements are plain, there is an empty requirement exactly if a leading module begins
with a point, and the further modules of lists are covered exactly if each lies in a package that comes
with the language or that some statement leads with. -/
theorem ofCode_of_leading_packages (code : Text) :
    ∃ packages : List Text,
      packages.Pairwise Text.Before ∧ ofCode code = packages.map requirement ∧
      (∀ p, p ∈ packages ↔
        p ∉ standard ∧ ∃ st : Statement, st.IsOn code ∧ package? st.text = some p) ∧
      (∀ st : Statement, (package? st.text = none ↔ st.openingGap.head? ≠ some ' ') ∧
        (package? st.text = some (topLevel st.leading) ↔ st.IsPlain)) ∧
      ((∀ st : Statement, st.IsOn code → st.IsPlain) →
        (∀ p, p ∈ packages ↔
          p ∉ standard ∧ ∃ st : Statement, st.IsOn code ∧ p = topLevel st.leading) ∧
        ([] ∈ ofCode code ↔ ∃ st : Statement, st.IsOn code ∧ st.leading.head? = some '.') ∧
        ((∀ p, p ∈ packages ↔
            p ∉ standard ∧ ∃ st : Statement, st.IsOn code ∧ ∃ m ∈ st.modules, p = topLevel m) ↔
          ∀ st : Statement, st.IsOn code → ∀ m ∈ st.modules,
            topLevel m ∈ standard ∨
              ∃ st' : Statement, st'.IsOn code ∧ topLevel m = topLevel st'.leading)) := by
  refine ⟨packages code, (Text.pairwise_before_distinctSorted _).filter _, rfl,
    fun p ↦ mem_packages, fun st ↦ ⟨package?_eq_none_iff st, package?_eq_leading_iff st⟩, ?_⟩
  intro hplain
  have hmem (p : Text) := mem_packages_of_plain (p := p) hplain
  refine ⟨hmem, ?_, ?_⟩
  · have hstandard : [] ∉ standard := by decide
    rw [nil_mem_ofCode_iff, hmem, and_iff_right hstandard]
    refine exists_congr fun st ↦ and_congr_right fun _ ↦ ?_
    rw [eq_comm, topLevel_eq_nil_iff, or_iff_right st.isModule_leading.ne_nil]
  · simp only [hmem]
    constructor
    · intro hcovered st hst m hm
      by_cases hstandard : topLevel m ∈ standard
      · exact .inl hstandard
      · exact .inr ((hcovered (topLevel m)).mpr ⟨hstandard, st, hst, m, hm, rfl⟩).2
    · intro hled p
      refine and_congr_right fun hp ↦ ?_
      constructor
      · rintro ⟨st, hst, rfl⟩
        exact ⟨st, hst, st.leading, st.leading_mem_modules, rfl⟩
      · rintro ⟨st, hst, m, hm, rfl⟩
        exact (hled st hst m hm).resolve_left hp

def twoListed : Statement where
  source := none
  gap := " "
  first := ⟨"numpy", none, by decide⟩
  more := [⟨[], [' '], ⟨"pandas", none, by decide⟩, Text.isBlank_of_mem_nil,
    Text.isBlank_of_mem_space⟩]
  isGap := by decide

def classImported : Statement where
  source := some ⟨" ", "sklearn.svm", " ", by decide, by decide, by decide⟩
  gap := " "
  first := ⟨"SVC", none, by decide⟩
  more := []
  isGap := by decide

def modelling : Text := "import numpy, pandas\nfrom sklearn.svm import SVC"

theorem ofCode_of_leading_packages_modelling :
    (∀ st : Statement, st.IsOn modelling → st.IsPlain) ∧
      ∃ packages : List Text, ofCode modelling = packages.map requirement ∧
        "numpy".toList ∈ packages ∧ "sklearn".toList ∈ packages ∧ "pandas".toList ∉ packages := by
  have hlines : (Text.lines modelling).map strip =
      [twoListed, classImported].map Statement.text := by decide
  have hon (st : Statement) : st.IsOn modelling ↔ st = twoListed ∨ st = classImported := by
    rw [Statement.isOn_iff_mem hlines, List.mem_pair]
  have hplain : ∀ st : Statement, st.IsOn modelling → st.IsPlain := by
    intro st hst
    rcases (hon st).mp hst with rfl | rfl
    · exact ⟨rfl, .inr ⟨by decide, by rintro a ⟨⟩⟩⟩
    · exact ⟨rfl, by decide, .inl (by decide)⟩
  obtain ⟨packages, -, hcode, -, -, hall⟩ := ofCode_of_leading_packages modelling
  have hmem := (hall hplain).1
  refine ⟨hplain, packages, hcode, ?_, ?_, ?_⟩
  · exact (hmem _).mpr ⟨by decide, twoListed, (hon _).mpr (.inl rfl), by decide⟩
  · exact (hmem _).mpr ⟨by decide, classImported, (hon _).mpr (.inr rfl), by decide⟩
  · intro hpandas
    obtain ⟨-, st, hst, htop⟩ := (hmem _).mp hpandas
    rcases (hon st).mp hst with rfl | rfl
    · revert htop
      decide
    · revert htop
      decide

/-- A package that is listed, does not come with the language and is missing. -/
theorem exists_listed_package_missing :
    ∃ (code : Text) (st : Statement) (m : Text), st.IsOn code ∧ m ∈ st.modules ∧
      topLevel m ∉ standard ∧ requirement (topLevel m) ∉ ofCode code := by
  refine ⟨"import numpy, pandas", twoListed, "pandas", ⟨"import numpy, pandas", ?_, ?_⟩, ?_, ?_, ?_⟩
  · decide
  · decide
  · decide
  · decide
  · decide +kernel

end SasMigration.Requirements
