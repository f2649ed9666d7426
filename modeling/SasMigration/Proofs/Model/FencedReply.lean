import SasMigration.Proofs.Analysis.Sources
import SasMigration.Proofs.Pattern.Leading
import SasMigration.Proofs.Value.Extent

namespace SasMigration

namespace ChatModel

open Pattern

variable {t before gap gap' lead core trail rest : Text} {c : Char} {v : Value}

def fence : Text := "```"

def jsonFence : Text := "```json"

theorem fencedJson_eq : fencedJson =
    inOrder [literal jsonFence, blanks, .group 1 (.span .shortest 0 none .all), blanks,
      literal fence] := rfl

theorem consumes_fencedJson : fencedJson.Consumes := by
  intro s e he
  rw [fencedJson_eq, mem_ends_inOrder_cons] at he
  obtain ⟨u, hu, he⟩ := he
  obtain ⟨hopen, -⟩ := takes_of_mem_ends_literal hu
  obtain ⟨w, hw⟩ := takes_of_mem_ends he
  have hlength : jsonFence.length = 7 := rfl
  rw [hw.index_eq, hopen.index_eq]
  omega

theorem unbordered_jsonFence : Text.Unbordered jsonFence := by
  intro x z hsplit hx hz hborder
  have hlast : z.getLast? = some 'n' := by
    rw [← List.getLast?_append_of_ne_nil x hz, ← hsplit]
    rfl
  -- a shorter beginning leaves out the last letter, which stands nowhere else
  have hlength := congrArg List.length hsplit
  rw [List.length_append] at hlength
  have hshort : z <+: jsonFence.dropLast := by
    refine List.prefix_of_prefix_length_le hborder (List.dropLast_prefix _) ?_
    have hpos := List.length_pos_iff.mpr hx
    rw [List.length_dropLast]
    omega
  exact absurd (hshort.subset (List.mem_of_getLast? hlast)) (by decide)

theorem skips_fencedJson (h : ¬ jsonFence <:+: before) (rest : Text) :
    fencedJson.Skips before (jsonFence ++ rest) := by
  intro x y hbefore hy s hs
  rw [List.eq_nil_iff_forall_not_mem]
  intro e he
  rw [fencedJson_eq, mem_ends_inOrder_cons] at he
  obtain ⟨u, hu, -⟩ := he
  obtain ⟨hopen, -⟩ := takes_of_mem_ends_literal hu
  have hearly : x ++ jsonFence <+: before ++ (jsonFence ++ rest) := by
    refine ⟨u.after, ?_⟩
    rw [hbefore, List.append_assoc, List.append_assoc, ← hs, hopen.after_eq]
  have hmeant : before ++ jsonFence <+: before ++ (jsonFence ++ rest) :=
    ⟨rest, List.append_assoc ..⟩
  have hpos := List.length_pos_iff.mpr hy
  have hle := unbordered_jsonFence.length_le hearly hmeant (by
    rw [hbefore, List.length_append]
    omega)
  have hwithin : x ++ jsonFence <+: before := List.prefix_of_prefix_length_le hearly
    (List.prefix_append _ _) (by rwa [List.length_append])
  exact h ((List.suffix_append x jsonFence).isInfix.trans hwithin.isInfix)

theorem skips_closing (hclosed : Value.Closed core) (h : ¬ fence <:+: core) (rest : Text) :
    (inOrder [blanks, literal fence]).Skips core rest := by
  intro x y hcore hy s hs
  rw [List.eq_nil_iff_forall_not_mem]
  intro e he
  obtain ⟨u, hu, he⟩ := mem_ends_inOrder_cons.mp he
  obtain ⟨g, hgap, hblank, -⟩ := exists_of_mem_ends_blanks hu
  obtain ⟨hclose, -⟩ := takes_of_mem_ends_literal he
  have hearly : g ++ fence <+: y ++ rest := by
    refine ⟨e.after, ?_⟩
    rw [List.append_assoc, ← hclose.after_eq, ← hgap.after_eq, hs]
  rcases List.prefix_or_prefix_of_prefix hearly (List.prefix_append y rest) with hp | hp
  · refine h ((List.suffix_append g fence).isInfix.trans (hp.isInfix.trans ?_))
    rw [hcore]
    exact (List.suffix_append x y).isInfix
  · obtain ⟨c, hlast, hcblank, hcfence⟩ := hclosed
    rw [hcore, List.getLast?_append_of_ne_nil x hy] at hlast
    rcases List.mem_append.mp (hp.subset (List.mem_of_getLast? hlast)) with hc | hc
    · rw [hblank c hc] at hcblank
      cases hcblank
    · have hall : (fence.all fun d ↦ d == '`') = true := by decide
      exact hcfence (eq_of_beq (List.all_eq_true.mp hall c hc))

theorem leads_fencedJson (hlead : ∀ c ∈ lead, Text.isBlank c) (htrail : ∀ c ∈ trail, Text.isBlank c)
    (hhead : ∀ c, core.head? = some c → Text.isBlank c = false) (hclosed : Value.Closed core)
    (h : ¬ fence <:+: core) (rest : Text) :
    fencedJson.Leads (jsonFence ++ (lead ++ (core ++ (trail ++ fence)))) rest [(1, core)] := by
  have hclose : (inOrder [literal fence]).Leads fence rest [] := leads_literal fence rest
  have hfence : ∀ c, (fence ++ rest).head? = some c → Text.isBlank c = false := by
    intro c hc
    obtain rfl : '`' = c := Option.some.inj hc
    rfl
  have hback := (leads_blanks htrail hfence).inOrder_cons hclose
  have hskips := skips_closing hclosed h (trail ++ fence ++ rest)
  have hall : ∀ c ∈ core, CharSet.all.holds c := fun _ _ ↦ rfl
  have hinside := leads_shortest_group 1 hall hskips hback
  have hstart : ∀ c, (core ++ (trail ++ fence) ++ rest).head? = some c →
      Text.isBlank c = false := by
    intro c hc
    obtain ⟨d, w, rfl⟩ := hclosed.exists_cons
    exact hhead c hc
  have hfront := (leads_blanks hlead hstart).inOrder_cons hinside
  exact (leads_literal jsonFence _).inOrder_cons hfront

theorem not_mem_of_isLetter (h : Text.isLetter c) (hall : (t.all fun d ↦ !Text.isLetter d) = true) :
    c ∉ t := by
  intro hmem
  have hc := List.all_eq_true.mp hall c hmem
  rw [h] at hc
  cases hc

theorem isJsonBlank_of_isLetter (h : Text.isLetter c) : Value.isJsonBlank c = false := by
  rw [← Bool.not_eq_true]
  intro hblank
  refine not_mem_of_isLetter (t := " \t\n\r") h (by decide) ?_
  simp only [Value.isJsonBlank, Bool.or_eq_true, beq_iff_eq] at hblank
  rcases hblank with ((rfl | rfl) | rfl) | rfl <;> decide

theorem isDigit_of_isLetter (h : Text.isLetter c) : c.isDigit = false := by
  rw [← Bool.not_eq_true]
  intro hdigit
  exact not_mem_of_isLetter h (by decide) (Value.isDigit_cases hdigit)

theorem ofJson_before_fence (hbefore : ∀ c, before.head? = some c → Text.isLetter c) (rest : Text) :
    Value.ofJson (before ++ (jsonFence ++ rest)) = .error .malformed := by
  -- the reply begins with a fence or with a letter, and no word is followed by a fence
  have hwords : ∀ word ∈ Value.words, '`' ∉ word.1 := by
    have hall : (Value.words.all fun w ↦ !w.1.elem '`') = true := by decide
    intro word hword hmem
    have hnone := List.all_eq_true.mp hall word hword
    rw [List.elem_iff.mpr hmem] at hnone
    cases hnone
  cases before with
  | nil => exact Value.ofJson_eq_malformed rfl (by decide) rfl List.mem_cons_self hwords rfl
  | cons c u =>
    have hletter := hbefore c rfl
    have hmem : '`' ∈ jsonFence := List.mem_cons_self
    refine Value.ofJson_eq_malformed (isJsonBlank_of_isLetter hletter)
      (not_mem_of_isLetter hletter (by decide)) (isDigit_of_isLetter hletter) ?_ hwords rfl
    exact List.mem_cons_of_mem c (List.mem_append_right u (List.mem_append_left rest hmem))

theorem readJson_of_ok (h : Value.ofJson t = .ok v) (otherwise : Value) :
    readJson t otherwise = v := by
  rw [readJson, h]

theorem readJson_of_malformed (h : Value.ofJson t = .error .malformed) (otherwise : Value) :
    readJson t otherwise = otherwise := by
  rw [readJson, h]

theorem readFenced_eq (h : Value.ofJson t = .ok v) (hfence : ¬ fence <:+: t)
    (hbefore : ¬ jsonFence <:+: before) (hgap : ∀ c ∈ gap, Text.isBlank c)
    (hgap' : ∀ c ∈ gap', Text.isBlank c) (rest : Text) :
    readFenced (before ++ (jsonFence ++ (gap ++ (t ++ (gap' ++ (fence ++ rest)))))) = v := by
  obtain ⟨lead, core, trail, rfl, hlead, htrail, hhead, hclosed, hcore⟩ :=
    Value.exists_core_of_ofJson h
  have hnone : ¬ fence <:+: core := fun hmem ↦
    hfence (hmem.trans ⟨lead, trail, List.append_assoc ..⟩)
  have hfront : ∀ c ∈ gap ++ lead, Text.isBlank c := List.forall_mem_append.mpr ⟨hgap, hlead⟩
  have hback : ∀ c ∈ trail ++ gap', Text.isBlank c := List.forall_mem_append.mpr ⟨htrail, hgap'⟩
  have hleads := leads_fencedJson hfront hback hhead hclosed hnone rest
  have hskips := skips_fencedJson hbefore
    ((gap ++ lead) ++ (core ++ ((trail ++ gap') ++ fence)) ++ rest)
  rw [← List.append_assoc jsonFence] at hskips
  obtain ⟨m, hfind, -, hgroups⟩ := consumes_fencedJson.exists_find?_eq hskips hleads
  have hgroup : m.group 1 = some core := hgroups 1
  simp only [List.append_assoc] at hfind ⊢
  rw [readFenced, hfind]
  dsimp only
  rw [hgroup, Option.getD_some, readJson_of_ok hcore]

/-- A JSON text between fences is read whatever stands around the fences: nothing or words before
the first of them, and anything after the second. -/
theorem schemaAdvice_fenced (h : Value.ofJson t = .ok v) (hfence : ¬ fence <:+: t)
    (hletter : ∀ c, before.head? = some c → Text.isLetter c) (hbefore : ¬ jsonFence <:+: before)
    (hgap : ∀ c ∈ gap, Text.isBlank c) (hgap' : ∀ c ∈ gap', Text.isBlank c) (rest : Text) :
    let model := ChatModel.replying
      (.text (before ++ (jsonFence ++ (gap ++ (t ++ (gap' ++ (fence ++ rest)))))))
    model.schemaAdvice = v ∧
      ∀ code, ∃ fields, SourceAnalysis.ofCode model code = .ok fields ∧
        fields.get? "enhanced_schemas" = some v := by
  intro model
  have hadvice : model.schemaAdvice = v := by
    have hwhole := ofJson_before_fence hletter (gap ++ (t ++ (gap' ++ (fence ++ rest))))
    have hread := readJson_of_malformed hwhole
    exact (hread _).trans (readFenced_eq h hfence hbefore hgap hgap' rest)
  refine ⟨hadvice, fun code ↦ ?_⟩
  obtain ⟨schemas, -, hall⟩ := SourceAnalysis.exists_ofCode_eq code
  refine ⟨_, hall model, ?_⟩
  rw [SourceAnalysis.get?_advice rfl, hadvice]

/-- The reply begins with a word of JSON, and backticks stand beside both fences. -/
theorem schemaAdvice_fenced_beside :
    let t : Text := "[\n  \"``\"\n]"
    let before : Text := "null ``"
    let gap' : Text := "\x0b\n"
    let rest : Text := "` ```json 2 ```"
    let v : Value := .list [.text "``"]
    Value.ofJson t = .ok v ∧ ¬ fence <:+: t ∧ ¬ jsonFence <:+: before ∧
      (ChatModel.replying
        (.text (before ++ (jsonFence ++ (t ++ (gap' ++ (fence ++ rest))))))).schemaAdvice = v := by
  intro t before gap' rest v
  have hplain : Value.Plain 1 v := .list fun w hw ↦ by
    rw [List.mem_singleton.mp hw]
    exact .text 0 _
  have ht : Value.ofJson t = .ok v := hplain.ofJson_json (by decide) false [] (by simp)
  have hfence : ¬ fence <:+: t := by decide
  have hbefore : ¬ jsonFence <:+: before := by decide
  have hletter : ∀ c, before.head? = some c → Text.isLetter c := by
    intro c hc
    rw [← Option.some.inj hc]
    rfl
  have hgap : ∀ c ∈ ([] : Text), Text.isBlank c := by simp
  have hall : (gap'.all Text.isBlank) = true := by decide
  have hfenced := schemaAdvice_fenced ht hfence hletter hbefore hgap (List.all_eq_true.mp hall) rest
  exact ⟨ht, hfence, hbefore, hfenced.1⟩

end ChatModel

end SasMigration
