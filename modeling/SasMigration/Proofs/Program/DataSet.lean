import SasMigration.Program.DataSet
import SasMigration.Proofs.Pattern.Reading
import SasMigration.Proofs.Pattern.Search
import SasMigration.Proofs.Text.Distinct
import SasMigration.Proofs.Text.Letter
import SasMigration.Proofs.Text.Lines

namespace SasMigration

namespace DataSet

open ReadPattern

variable {code name : Text}

/-- The texts that can be the name of a data set. -/
def IsName (name : Text) : Prop := ∀ c ∈ name, Text.isWord c ∨ c = '.'

theorem isName_of_mem_ends {s t : Cursor} {v : Text} {low : Nat} {high : Option Nat}
    (h : t ∈ (Pattern.span .longest low high
      (.ofItems false .distinguished [.kind .word false false, .char '.'])).ends s)
    (hv : s.Takes v t) : IsName v := by
  intro c hc
  have hset : Text.isWord c ∨ '.' = c := by
    simpa [CharSet.holds, ClassItem.holds, CharKind.holds, LetterCase.same] using
      (Pattern.holds_of_mem_ends_span h hv).2 c hc
  exact hset.imp_right Eq.symm

theorem exists_inOrder_of_mem_patterns {p : Pattern} (h : p ∈ patterns) :
    ∃ ps, p = .inOrder (ps ++ [References.dataSetName]) := by
  simp only [patterns, List.mem_cons, List.not_mem_nil, or_false] at h
  rcases h with rfl | rfl | rfl | rfl | rfl
  · exact ⟨[_, _], rfl⟩
  · exact ⟨[_, _], rfl⟩
  · exact ⟨[_, _], rfl⟩
  · exact ⟨[_, _, _, _], rfl⟩
  · exact ⟨[_, _, _, _], rfl⟩

theorem isName_of_mem_dataSetsBy {p : Pattern} (hp : p ∈ patterns)
    (h : name ∈ References.dataSetsBy p code) : name ≠ [] ∧ IsName name := by
  obtain ⟨ps, rfl⟩ := exists_inOrder_of_mem_patterns hp
  obtain ⟨m, hm, rfl⟩ := List.mem_map.mp h
  obtain ⟨s, e, v, he, hv, hgroup⟩ :=
    Pattern.exists_group_of_isOf (Pattern.isOf_of_mem_findAll hm)
  have hlength : 1 ≤ v.length := (Pattern.holds_of_mem_ends_span he hv).1
  rw [hgroup, Option.getD_some]
  exact ⟨List.ne_nil_of_length_pos hlength, isName_of_mem_ends he hv⟩

theorem IsName.kept?_eq (h : IsName name) (hne : name ≠ []) : kept? name = some name := by
  have hstrip : Text.strip name = name := by
    refine Text.strip_eq_self fun c hc ↦ ?_
    rcases h c hc with hword | rfl
    · exact Text.isBlank_of_isWord hword
    · rfl
  have hmacro : Text.startsWith ['%'] name = false := by
    rw [Text.startsWith, Bool.eq_false_iff]
    intro hstart
    obtain ⟨rest, hrest⟩ := List.isPrefixOf_iff_prefix.mp hstart
    have hpercent : Text.isWord '%' ∨ '%' = '.' := h '%' (hrest ▸ List.mem_cons_self)
    exact absurd hpercent (by decide)
  simp [kept?, hstrip, hmacro, hne]

theorem mem_names : name ∈ names code ↔ ∃ p ∈ patterns, name ∈ References.dataSetsBy p code := by
  simp only [names, Text.mem_distinctSorted, List.mem_flatMap, List.mem_filterMap]
  refine exists_congr fun p ↦ and_congr_right fun hp ↦ ?_
  have hkept (found : Text) (hfound : found ∈ References.dataSetsBy p code) :
      kept? found = some found :=
    (isName_of_mem_dataSetsBy hp hfound).2.kept?_eq (isName_of_mem_dataSetsBy hp hfound).1
  constructor
  · rintro ⟨found, hfound, hname⟩
    rw [hkept found hfound, Option.some.injEq] at hname
    exact hname ▸ hfound
  · exact fun hname ↦ ⟨name, hname, hkept name hname⟩

theorem isName_of_mem_names (h : name ∈ names code) : IsName name := by
  obtain ⟨p, hp, hname⟩ := mem_names.mp h
  exact (isName_of_mem_dataSetsBy hp hname).2

theorem IsName.fits (h : IsName name) : Fits name := by
  have hnot (c : Char) (hc : c ∈ special) (hpoint : c ≠ '.') : c ∉ name := fun hmem ↦
    (h c hmem).elim (fun hword ↦ Text.notMem_special hword hc) hpoint
  have hhead {c : Char} (hc : c ∈ special) (hpoint : c ≠ '.') : name.head? ≠ some c := fun he ↦
    hnot c hc hpoint (List.mem_of_mem_head? he)
  refine ⟨?_, hhead (by decide) (by decide), hhead (by decide) (by decide)⟩
  rintro rfl
  exact hnot '\\' (by decide) (by decide) List.mem_cons_self

theorem IsName.readable {flags : PatternFlags} {depth : Nat} (h : IsName name) :
    Readable flags depth name := by
  induction name with
  | nil => exact readable_letters (by simp)
  | cons c rest ih =>
    obtain ⟨hc, hrest⟩ := List.forall_mem_cons.mp h
    have hfirst : Readable flags depth [c] := by
      rcases hc with hword | rfl
      · exact readable_letters fun d hd ↦ List.mem_singleton.mp hd ▸ Text.notMem_special hword
      · exact readable_dot
    by_cases hnil : rest = []
    · exact hnil ▸ hfirst
    · exact hfirst.append (ih hrest) (IsName.fits hrest) hnil

theorem IsName.exists_columns (h : IsName name) (code : Text) :
    ∃ found, columns code name = .ok found := by
  have hname : Readable .anyCase 0 (name ++ ['\\', '.']) :=
    h.readable.append readable_point (by decide) (by decide)
  have hcolumn : Readable .anyCase 2 ['[', '\\', 'w', ']', '+'] := readable_wordClass
  obtain ⟨new, hnew, hfault⟩ := hname
  obtain ⟨more, hmore, hfault'⟩ := hcolumn
  have hread := read_capture hnew hmore rfl (by decide) hfault hfault'
  have hwritten : name ++ ['\\', '.'] ++ '(' :: (['[', '\\', 'w', ']', '+'] ++ [')']) =
      name ++ "\\.([\\w]+)" := List.append_assoc _ _ _
  rw [hwritten] at hread
  rw [columns, hread]
  exact ⟨_, rfl⟩

theorem exists_schemas {dataSets : List Text} (h : ∀ name ∈ dataSets, IsName name) (code : Text) :
    ∃ found, schemas code dataSets = .ok found := by
  induction dataSets with
  | nil => exact ⟨[], rfl⟩
  | cons name rest ih =>
    obtain ⟨hname, hrest⟩ := List.forall_mem_cons.mp h
    obtain ⟨found, hfound⟩ := hname.exists_columns code
    obtain ⟨more, hmore⟩ := ih hrest
    rw [schemas, hfound, hmore]
    exact ⟨_, rfl⟩

theorem exists_schemas_names (code : Text) : ∃ found, schemas code (names code) = .ok found :=
  exists_schemas (fun _ h ↦ isName_of_mem_names h) code

end DataSet

end SasMigration
