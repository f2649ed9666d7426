import SasMigration.Analysis.Dependencies
import SasMigration.Proofs.Pattern.Leading
import SasMigration.Proofs.Text.Distinct

namespace SasMigration.References

open Pattern
open Text (IsRun isWord isBlank)

variable {code before name after rest u v : Text} {m : Match}

/-- A call in a program: a percent sign and the whole word after it. -/
structure CallAt (code before name after : Text) : Prop where
  code_eq : code = before ++ '%' :: (name ++ after)
  isRun : IsRun name
  isWord_head : ∀ c, after.head? = some c → isWord c = false

/-- An argument list: what stands between parentheses on one line, up to the first that closes. -/
structure Arguments where
  gap : Text
  inside : Text
  isBlank_gap : ∀ c ∈ gap, isBlank c
  newline_notMem : '\n' ∉ inside
  close_notMem : ')' ∉ inside

def Arguments.text (a : Arguments) : Text := a.gap ++ '(' :: (a.inside ++ [')'])

/-- The place between two parts of a program is in the argument list of a call. -/
def Enclosed (before after : Text) : Prop :=
  ∃ (first name : Text) (a : Arguments) (x y last : Text), IsRun name ∧ a.inside = x ++ y ∧
    before = first ++ '%' :: (name ++ (a.gap ++ '(' :: x)) ∧ after = y ++ ')' :: last

theorem percent_notMem_of_isRun (h : IsRun name) : '%' ∉ name := fun hmem ↦
  absurd (h.word _ hmem) (by decide)

theorem notMem_of_isBlank {c : Char} {t : Text} (ht : ∀ c ∈ t, isBlank c) (hc : isBlank c = false) :
    c ∉ t := by
  intro hmem
  rw [ht c hmem] at hc
  cases hc

/-! What the search takes at a call -/

def argumentsPattern : Pattern := .inOrder [.blanks, .literal "(", .anyInLine, .literal ")"]

theorem leads_argumentsPattern (a : Arguments) (rest : Text) :
    argumentsPattern.Leads a.text rest [] := by
  have hclose : (inOrder [.literal ")"]).Leads [')'] rest [] := leads_literal [')'] rest
  have hskips : (inOrder [.literal ")"]).Skips a.inside ([')'] ++ rest) := by
    intro x y hinside hy s hs
    obtain ⟨c, y, rfl⟩ := List.exists_cons_of_ne_nil hy
    rw [List.eq_nil_iff_forall_not_mem]
    intro t ht
    obtain ⟨htakes, -⟩ := takes_of_mem_ends_literal (w := [')']) ht
    have hc : c = ')' := by
      have hafter := htakes.after_eq
      rw [hs] at hafter
      simpa using congrArg List.head? hafter
    exact a.close_notMem (by simp [hinside, hc])
  have hset : ∀ c ∈ a.inside, CharSet.notNewline.holds c := by
    intro c hc
    have hne : c ≠ '\n' := fun h ↦ a.newline_notMem (h ▸ hc)
    simpa [CharSet.holds] using hne
  have hinside := leads_shortest hset hskips hclose
  have hopen := (leads_literal ['('] (a.inside ++ [')'] ++ rest)).inOrder_cons hinside
  refine (leads_blanks a.isBlank_gap ?_).inOrder_cons hopen
  intro c hc
  cases hc
  decide

theorem exists_arguments_of_mem_ends {s t : Cursor} (h : t ∈ argumentsPattern.ends s) :
    ∃ (a : Arguments) (rest : Text), s.after = a.text ++ rest := by
  rw [argumentsPattern] at h
  simp only [mem_ends_inOrder_cons] at h
  obtain ⟨t₁, h₁, t₂, h₂, t₃, h₃, t₄, h₄, -⟩ := h
  obtain ⟨gap, hgap, hblank, -⟩ := exists_of_mem_ends_blanks h₁
  obtain ⟨hopen, -⟩ := takes_of_mem_ends_literal (w := ['(']) h₂
  obtain ⟨v, hv⟩ := takes_of_mem_ends h₃
  obtain ⟨-, hset⟩ := holds_of_mem_ends_span h₃ hv
  obtain ⟨hclose, -⟩ := takes_of_mem_ends_literal (w := [')']) h₄
  -- the way may have passed over a parenthesis that closes, so the list ends at the first
  obtain ⟨inside, more, hsplit, hinside⟩ :=
    List.eq_append_cons_of_mem (List.mem_append_right v (List.mem_singleton_self ')'))
  have hnewline : '\n' ∉ inside := by
    intro hmem
    have hmem : '\n' ∈ v ++ [')'] := hsplit ▸ List.mem_append_left _ hmem
    rcases List.mem_append.mp hmem with hmem | hmem
    · exact absurd (hset _ hmem) (by decide)
    · simp at hmem
  refine ⟨⟨gap, inside, hblank, hnewline, hinside⟩, more ++ t₄.after, ?_⟩
  have htail : v ++ ([')'] ++ t₄.after) = inside ++ ')' :: (more ++ t₄.after) := by
    rw [← List.append_assoc, hsplit, List.append_assoc]
    rfl
  rw [hgap.after_eq, hopen.after_eq, hv.after_eq, hclose.after_eq, htail, Arguments.text]
  simp

theorem callPattern_eq :
    callPattern = inOrder [.literal "%", .group 1 .word1, .optional argumentsPattern] := rfl

theorem leads_callPattern {w : Text} (hname : IsRun name)
    (hhead : ∀ c, (w ++ rest).head? = some c → isWord c = false)
    (hargs : (Pattern.optional argumentsPattern).Leads w rest []) :
    callPattern.Leads ('%' :: (name ++ w)) rest [(1, name)] := by
  have hlast : (inOrder [Pattern.optional argumentsPattern]).Leads w rest [] := hargs
  have hword := ((leads_word1 hname hhead).group 1).inOrder_cons hlast
  exact (leads_literal ['%'] (name ++ w ++ rest)).inOrder_cons hword

theorem isWord_head_arguments (a : Arguments) (rest : Text) :
    ∀ c, (a.text ++ rest).head? = some c → isWord c = false := by
  intro c hc
  cases hgap : a.gap with
  | nil =>
    rw [Arguments.text, hgap] at hc
    cases hc
    decide
  | cons d gap =>
    have hblank : Text.IsGap (d :: gap) := ⟨by simp, hgap ▸ a.isBlank_gap⟩
    rw [Arguments.text, hgap, List.append_assoc] at hc
    exact hblank.isWord_head _ c hc

theorem CallAt.exists_matchAt (h : CallAt code before name after) :
    ∃ m, callPattern.matchAt false (.between before ('%' :: (name ++ after))) = some m ∧
      m.start = before.length ∧ m.group 1 = some name ∧
      ((∃ (a : Arguments) (rest : Text), after = a.text ++ rest ∧
          m.text = '%' :: (name ++ a.text)) ∨
        (∀ (a : Arguments) (rest : Text), after ≠ a.text ++ rest) ∧ m.text = '%' :: name) := by
  have hmatch {w rest : Text} (hafter : after = w ++ rest)
      (hargs : (Pattern.optional argumentsPattern).Leads w rest []) :
      ∃ m, callPattern.matchAt false (.between before ('%' :: (name ++ after))) = some m ∧
        m.start = before.length ∧ m.group 1 = some name ∧ m.text = '%' :: (name ++ w) := by
    have hleads := leads_callPattern h.isRun (hafter ▸ h.isWord_head) hargs
    obtain ⟨m, hm, htext, hgroup⟩ := hleads.exists_matchAt
      (before.length + ('%' :: (name ++ after)).length) before.length before.reverse
    have hm' : callPattern.matchAt false (.between before ('%' :: (name ++ after))) = some m := by
      rw [Cursor.between, ← hm, hafter]
      simp
    obtain ⟨e, -, w, -, heq⟩ := matchAt_eq_some hm'
    exact ⟨m, hm', by rw [heq]; rfl, by simpa using hgroup 1, htext⟩
  by_cases hargs : ∃ (a : Arguments) (rest : Text), after = a.text ++ rest
  · obtain ⟨a, rest, hafter⟩ := hargs
    obtain ⟨m, hm, hstart, hgroup, htext⟩ :=
      hmatch hafter (leads_argumentsPattern a rest).optional
    exact ⟨m, hm, hstart, hgroup, .inl ⟨a, rest, hafter, htext⟩⟩
  · have hnone : ∀ s : Cursor, s.after = after → argumentsPattern.ends s = [] := by
      intro s hs
      rw [List.eq_nil_iff_forall_not_mem]
      intro t ht
      exact hargs (hs ▸ exists_arguments_of_mem_ends ht)
    obtain ⟨m, hm, hstart, hgroup, htext⟩ := hmatch (w := []) rfl (leads_optional_of_none hnone)
    refine ⟨m, hm, hstart, hgroup, .inr ⟨fun a rest hafter ↦ hargs ⟨a, rest, hafter⟩, ?_⟩⟩
    rw [htext, List.append_nil]

theorem consumes_callPattern : callPattern.Consumes := by
  intro s t ht
  rw [callPattern_eq] at ht
  obtain ⟨u, hu, ht⟩ := mem_ends_inOrder_cons.mp ht
  obtain ⟨hpercent, -⟩ := takes_of_mem_ends_literal (w := ['%']) hu
  obtain ⟨w, hw⟩ := takes_of_mem_ends ht
  rw [hw.index_eq, hpercent.index_eq, List.length_singleton]
  omega

/-! The calls that are found -/

theorem exists_callAt_of_mem_findAll (h : m ∈ callPattern.findAll code) :
    ∃ before name after, CallAt code before name after ∧
      callPattern.matchAt false (.between before ('%' :: (name ++ after))) = some m := by
  obtain ⟨before, rest, nonEmpty, hcode, hm⟩ := matchedFrom_of_mem_findFrom h
  rw [consumes_callPattern.matchAt_eq, hcode, between_eq] at hm
  obtain ⟨e, he, -⟩ := matchAt_eq_some hm
  rw [callPattern_eq] at he
  obtain ⟨t₁, h₁, he⟩ := mem_ends_inOrder_cons.mp he
  obtain ⟨t₂, hgroup, -⟩ := mem_ends_inOrder_cons.mp he
  obtain ⟨t₂, h₂, -⟩ := List.mem_map.mp hgroup
  obtain ⟨hpercent, -⟩ := takes_of_mem_ends_literal (w := ['%']) h₁
  obtain ⟨w, hw, hrun, -⟩ := exists_of_mem_ends_word1 h₂
  -- the call's name is the whole word, of which the way may have taken a part
  obtain ⟨c, w, rfl⟩ := List.exists_cons_of_ne_nil hrun.ne_nil
  obtain ⟨name, after, hsplit, hname, hhead⟩ := Text.exists_run (t := t₁.after)
    (by rw [hw.after_eq]; rfl) (hrun.word c List.mem_cons_self)
  have hrest : rest = '%' :: (name ++ after) := by
    rw [← hsplit]
    exact hpercent.after_eq
  exact ⟨before, name, after, ⟨hrest ▸ hcode, hname, hhead⟩, hrest ▸ hm⟩

theorem CallAt.eq_of_length {before' name' after' : Text} (h : CallAt code before name after)
    (h' : CallAt code before' name' after') (hlength : before.length = before'.length) :
    name = name' ∧ after = after' := by
  have hcode := h.code_eq.symm.trans h'.code_eq
  obtain ⟨-, hrest⟩ := List.append_inj hcode hlength
  rw [List.cons.injEq] at hrest
  exact Text.eq_of_append_run h.isRun.word h'.isRun.word h.isWord_head h'.isWord_head hrest.2

theorem CallAt.le_length (h : CallAt (u ++ '%' :: v) before name after)
    (hlt : before.length < u.length) : before.length + 1 + name.length ≤ u.length := by
  by_contra hle
  have hcode : (before ++ ['%']) ++ (name ++ after) = u ++ '%' :: v := by
    rw [h.code_eq]
    simp
  refine absurd (Text.mem_of_between hcode ?_ ?_) (percent_notMem_of_isRun h.isRun)
  · rw [List.length_append, List.length_singleton]
    omega
  · rw [List.length_append, List.length_singleton]
    omega

theorem enclosed_of_within (hm : m ∈ callPattern.findAll (u ++ '%' :: v))
    (hstart : m.start < u.length) (hstop : u.length < m.stop) : Enclosed u ('%' :: v) := by
  obtain ⟨before, name, after, hcall, hat⟩ := exists_callAt_of_mem_findAll hm
  obtain ⟨m', hat', hstart', -, htext⟩ := hcall.exists_matchAt
  obtain rfl : m = m' := Option.some.inj (hat.symm.trans hat')
  have hname := hcall.le_length (hstart' ▸ hstart)
  rw [Match.stop, hstart'] at hstop
  rcases htext with ⟨a, rest, rfl, htext⟩ | ⟨-, htext⟩
  · have hcode : (before ++ '%' :: name) ++ ((a.gap ++ ['(']) ++ (a.inside ++ ')' :: rest)) =
        u ++ '%' :: v := by
      rw [hcall.code_eq, Arguments.text]
      simp
    have hlow : (before ++ '%' :: name).length ≤ u.length := by
      rw [List.length_append, List.length_cons]
      omega
    have hopen : (before ++ '%' :: name).length + (a.gap ++ ['(']).length ≤ u.length := by
      by_contra hlt
      have hmem := Text.mem_of_between hcode hlow (Nat.lt_of_not_le hlt)
      have hgap := notMem_of_isBlank a.isBlank_gap (by decide : isBlank '%' = false)
      simp [hgap] at hmem
    -- the place is behind the opening parenthesis, and in front of the one that closes
    rw [← List.append_assoc] at hcode
    obtain ⟨x, rfl⟩ : (before ++ '%' :: name ++ (a.gap ++ ['('])) <+: u := by
      apply List.prefix_of_prefix_length_le ⟨_, hcode⟩ (List.prefix_append _ _)
      rw [List.length_append]
      exact hopen
    rw [List.append_assoc _ x, List.append_cancel_left_eq] at hcode
    obtain ⟨y, hy⟩ : x <+: a.inside := by
      apply List.prefix_of_prefix_length_le ⟨_, hcode.symm⟩ (List.prefix_append _ _)
      simp only [htext, Arguments.text, List.length_append, List.length_cons,
        List.length_nil] at hstop
      omega
    rw [← hy, List.append_assoc, List.append_cancel_left_eq] at hcode
    refine ⟨before, name, a, x, y, rest, hcall.isRun, hy.symm, ?_, hcode.symm⟩
    simp
  · rw [htext, List.length_cons] at hstop
    omega

/-- A match that reaches over the beginning of a call reaches over all that is in front of the end
of the call's argument list. -/
theorem lt_stop_of_arguments {a : Arguments} {x y last : Text}
    (h : CallAt code before name (a.text ++ last)) (hinside : a.inside = x ++ y)
    (hm : m ∈ callPattern.findAll code) (hstart : m.start ≤ before.length)
    (hstop : before.length < m.stop) :
    (before ++ '%' :: (name ++ (a.gap ++ '(' :: x))).length < m.stop := by
  obtain ⟨before', name', after', hcall, hat⟩ := exists_callAt_of_mem_findAll hm
  obtain ⟨m', hat', hstart', -, htext⟩ := hcall.exists_matchAt
  obtain rfl : m = m' := Option.some.inj (hat.symm.trans hat')
  rw [hstart'] at hstart
  rw [Match.stop, hstart'] at hstop ⊢
  rcases htext with ⟨a', rest, rfl, htext⟩ | ⟨hnone, htext⟩
  · -- the match ends with a parenthesis that closes, and there is none in front of `y`
    by_contra hle
    have hclosed : before ++ ('%' :: (name ++ (a.gap ++ '(' :: x)) ++ (y ++ ')' :: last)) =
        (before' ++ '%' :: (name' ++ (a'.gap ++ '(' :: a'.inside))) ++ ')' :: rest := by
      have hcode := h.code_eq.symm.trans hcall.code_eq
      simp only [Arguments.text, hinside] at hcode
      simpa using hcode
    simp only [htext, Arguments.text, List.length_append, List.length_cons,
      List.length_nil] at hle hstop
    have hmem := Text.mem_of_between hclosed
      (by simp only [List.length_append, List.length_cons]; omega)
      (by simp only [List.length_append, List.length_cons]; omega)
    have hgap := notMem_of_isBlank a.isBlank_gap (by decide : isBlank ')' = false)
    have hx : ')' ∉ x := fun hx ↦ a.close_notMem (hinside ▸ List.mem_append_left y hx)
    have hname : ')' ∉ name := fun hname ↦ absurd (h.isRun.word _ hname) (by decide)
    simp [hgap, hx, hname] at hmem
  · -- the match is a call without arguments, and so not this one
    rw [htext, List.length_cons] at hstop
    rcases Nat.lt_or_eq_of_le hstart with hlt | heq
    · have hle := (h.code_eq ▸ hcall).le_length hlt
      omega
    · exact absurd (hcall.eq_of_length h heq).2 (hnone a last)

theorem mem_captures_iff :
    name ∈ callPattern.captures 1 code ↔
      ∃ before after, CallAt code before name after ∧
        ¬ Enclosed before ('%' :: (name ++ after)) := by
  rw [captures, List.mem_map]
  constructor
  · rintro ⟨m, hm, rfl⟩
    obtain ⟨before, name, after, hcall, hat⟩ := exists_callAt_of_mem_findAll hm
    obtain ⟨m', hat', hstart, hgroup, -⟩ := hcall.exists_matchAt
    obtain rfl : m = m' := Option.some.inj (hat.symm.trans hat')
    rw [hgroup, Option.getD_some]
    refine ⟨before, after, hcall, ?_⟩
    rintro ⟨first, outer, a, x, y, last, houter, hinside, hbefore, hafter⟩
    have hcode : code = first ++ '%' :: (outer ++ (a.text ++ last)) := by
      rw [hcall.code_eq, hafter, hbefore, Arguments.text, hinside]
      simp
    have henclosing : CallAt code first outer (a.text ++ last) :=
      ⟨hcode, houter, isWord_head_arguments a last⟩
    obtain ⟨_, hat₁, -⟩ := henclosing.exists_matchAt
    obtain ⟨m₁, hm₁, hstart₁, hstop₁, -⟩ := consumes_callPattern.exists_mem_findAll hat₁
    rw [← hcode] at hm₁
    have hover := lt_stop_of_arguments henclosing hinside hm₁ hstart₁ hstop₁
    rw [← hbefore] at hover
    have hlt : m₁.start < m.start := by
      have hlength := congrArg List.length hbefore
      rw [List.length_append, List.length_cons] at hlength
      omega
    have hle := stop_le_of_start_lt hm₁ hm hlt
    omega
  · rintro ⟨before, after, hcall, hfree⟩
    obtain ⟨m, hat, -, hgroup, -⟩ := hcall.exists_matchAt
    obtain ⟨m', hm', hstart, hstop, heq⟩ := consumes_callPattern.exists_mem_findAll hat
    rcases Nat.lt_or_eq_of_le hstart with hlt | hsame
    · exact absurd (enclosed_of_within hm' hlt hstop) hfree
    · refine ⟨m', hcall.code_eq ▸ hm', ?_⟩
      rw [heq hsame, hgroup, Option.getD_some]

/-- Without a model a program always has its dependencies. The names of its macro calls that are
reported are those of the calls outside all argument lists of calls, words of the macro language
left out. So every name that is reported is called, and of the names that are called those are
missing whose calls all stand in argument lists. -/
theorem mem_internal_dependencies_iff (code : Text) :
    ∃ fields names, DependencyAnalysis.ofCode .absent code = .ok fields ∧
      fields.get? "internal_dependencies" = some (.texts names) ∧ names.Nodup ∧
      ∀ name, name ∈ names ↔ isBuiltIn name = false ∧ ∃ before after,
        CallAt code before name after ∧ ¬ Enclosed before ('%' :: (name ++ after)) := by
  refine ⟨(ofCode code).fields, callsIn code, rfl, rfl, Text.nodup_distinctSorted _, ?_⟩
  intro name
  rw [callsIn, Text.mem_distinctSorted, List.mem_filter, mem_captures_iff, and_comm]
  simp

/-- A macro that is called only for an argument of another is not reported. -/
theorem exists_call_in_arguments_missing :
    ∃ code before name after : Text, CallAt code before name after ∧ isBuiltIn name = false ∧
      ∃ fields names, DependencyAnalysis.ofCode .absent code = .ok fields ∧
        fields.get? "internal_dependencies" = some (.texts names) ∧ name ∉ names := by
  refine ⟨"%a(%b)", "%a(", "b", ")", ⟨rfl, by decide, ?_⟩, by decide, _, callsIn "%a(%b)", rfl,
    rfl, ?_⟩
  · intro c hc
    cases hc
    decide
  · decide +kernel

end SasMigration.References
