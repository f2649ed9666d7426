import SasMigration.Program.Complexity
import SasMigration.Proofs.Pattern.Places
import SasMigration.Proofs.Program.Placement

namespace SasMigration

open Pattern Text

theorem Match.Follow.exists_gaps {index : Nat} {t : Text} {ms : List Match}
    (h : Follow index t ms) :
    ∃ (gaps : List Text) (rest : Text), gaps.length = ms.length ∧
      t = (List.zipWith (· ++ ·) gaps (ms.map (·.text))).flatten ++ rest := by
  induction ms generalizing index t with
  | nil => exact ⟨[], t, rfl, rfl⟩
  | cons m ms ih =>
    obtain ⟨gap, rest, rfl, -, hms⟩ := h
    obtain ⟨gaps, last, hlength, rfl⟩ := ih hms
    exact ⟨gap :: gaps, last, congrArg (· + 1) hlength, by simp⟩

namespace Complexity

theorem consumes_macroStart : macroStart.Consumes :=
  @consumes_keyword [] [.blanks1, .word1] "%macro" (by decide)

theorem exists_of_mem_ends_macroStart {s e : Cursor} (h : e ∈ macroStart.ends s) :
    ∃ (o : MacroOpening) (name : Text), IsRun name ∧ s.Takes (o.text ++ name) e := by
  rw [macroStart] at h
  simp only [mem_ends_inOrder_cons] at h
  obtain ⟨t₁, h₁, t₂, h₂, t₃, h₃, hend⟩ := h
  obtain rfl := List.mem_singleton.mp hend
  obtain ⟨keyword, hkeyword, hsame, -⟩ := exists_of_mem_ends_letters h₁
  obtain ⟨gap, hgap, hisGap, -⟩ := exists_of_mem_ends_blanks1 h₂
  obtain ⟨name, hname, hisRun, -⟩ := exists_of_mem_ends_word1 h₃
  exact ⟨⟨keyword, gap, hsame, hisGap⟩, name, hisRun, (hkeyword.trans hgap).trans hname⟩

theorem accepts_macroStart (o : MacroOpening) {name : Text} (hname : IsRun name) :
    macroStart.Accepts (o.text ++ name) := by
  rw [MacroOpening.text, List.append_assoc]
  have hlast : (inOrder [.word1]).Accepts name := accepts_word1 hname
  exact (accepts_letters o.same_keyword).inOrder_cons
    ((accepts_blanks1 o.isGap_gap).inOrder_cons hlast)

theorem apart_macroStart : macroStart.Apart := by
  -- each opening has its percent sign at the beginning only
  intro u x y r e he htakes hx hy
  obtain ⟨o, name, hname, hopening⟩ := exists_of_mem_ends_macroStart he
  obtain ⟨rest, hrest, hpercent⟩ := o.exists_eq_cons hname
  have hxy : x ++ y = '%' :: rest := by rw [← hrest, ← htakes.take_eq, hopening.take_eq]
  obtain ⟨c, x, rfl⟩ := List.exists_cons_of_ne_nil hx
  obtain ⟨d, y, rfl⟩ := List.exists_cons_of_ne_nil hy
  have hd : d ≠ '%' := by
    rintro rfl
    rw [List.cons_append, List.cons.injEq] at hxy
    exact hpercent (by simp [← hxy.2])
  rw [List.eq_nil_iff_forall_not_mem]
  intro e' he'
  obtain ⟨o', name', hname', hopening'⟩ := exists_of_mem_ends_macroStart he'
  obtain ⟨rest', hrest', -⟩ := o'.exists_eq_cons hname'
  have hafter : d :: (y ++ r) = '%' :: rest' ++ e'.after := hrest' ▸ hopening'.after_eq
  exact hd (List.cons.inj hafter).1

end Complexity

namespace MacroDefinition

theorem matchesAt_macroStart {code : Text} {i : Nat} (h : pattern.MatchesAt code i) :
    Complexity.macroStart.MatchesAt code i := by
  obtain ⟨u, v, hcode, hi, hends⟩ := h
  obtain ⟨e, he⟩ := List.exists_mem_of_ne_nil _ hends
  rw [pattern_eq] at he
  obtain ⟨t, ht, -⟩ := mem_ends_inOrder_append.mp he
  obtain ⟨o, name, hname, htakes, -⟩ := exists_of_mem_ends_opening ht
  obtain ⟨e', he', -⟩ := Complexity.accepts_macroStart o hname _ _ htakes.after_eq
  exact ⟨u, v, hcode, hi, List.ne_nil_of_mem he'⟩

theorem map_code_all (code file : Text) :
    (all code file).map (·.code) = (pattern.findAll code).map (·.text) := by
  calc (all code file).map (·.code)
      = ((pattern.findAll code).zipIdx.map Prod.fst).map (·.text) := by
        rw [all, List.map_map, List.map_map]
        rfl
    _ = (pattern.findAll code).map (·.text) := by rw [List.zipIdx_map_fst]

theorem map_index_all (code file : Text) :
    (all code file).map (·.index) = List.range (all code file).length := by
  calc (all code file).map (·.index)
      = (pattern.findAll code).zipIdx.map Prod.snd := by
        rw [all, List.map_map]
        rfl
    _ = List.range (pattern.findAll code).length := by
        rw [List.zipIdx_map_snd, List.range_eq_range']
    _ = List.range (all code file).length := by rw [all, List.length_map, List.length_zipIdx]

/-- There are at most as many definitions as openings are counted; they are stretches of the
program, one after the other, and are numbered in that order. -/
theorem length_all_le_macros (code file : Text) :
    (all code file).length ≤ (Complexity.ofCode code).macros ∧
      (∃ (gaps : List Text) (rest : Text), gaps.length = (all code file).length ∧
        code = (List.zipWith (· ++ ·) gaps ((all code file).map (·.code))).flatten ++ rest) ∧
      (all code file).map (·.index) = List.range (all code file).length := by
  have hlength : (all code file).length = (pattern.findAll code).length :=
    length_numbered file (pattern.findAll code) 0
  refine ⟨?_, ?_, map_index_all code file⟩
  · classical
    calc (all code file).length = (pattern.findAll code).length := hlength
      _ ≤ Nat.count (pattern.MatchesAt code) (code.length + 1) :=
        length_findAll_le WrittenMacro.consumes_pattern code
      _ ≤ Nat.count (Complexity.macroStart.MatchesAt code) (code.length + 1) :=
        Nat.count_mono_left fun i _ hi ↦ matchesAt_macroStart hi
      _ = (Complexity.ofCode code).macros :=
        (Complexity.apart_macroStart.length_findAll Complexity.consumes_macroStart code).symm
  · obtain ⟨gaps, rest, hgaps, hcode⟩ := (Match.follow_findAll pattern code).exists_gaps
    rw [map_code_all, hlength]
    exact ⟨gaps, rest, hgaps, hcode⟩

end MacroDefinition

end SasMigration
