import Mathlib.Data.List.TakeWhile
import SasMigration.Program.Macro
import SasMigration.Proofs.Pattern.Scan

namespace SasMigration

open Text

/-- Two names that differ at most in letter case. -/
def Text.SameName (name other : Text) : Prop :=
  List.Forall₂ (fun a b ↦ lowerCode a.toNat = lowerCode b.toNat) name other

namespace Pattern

variable {s t : Cursor} {w v rest : Text}

theorem exists_of_passOver (h : passOver .folded w s = some t) :
    ∃ v, s.Takes v t ∧ SameName w v ∧ t.groups = s.groups := by
  induction w generalizing s with
  | nil =>
    cases h
    exact ⟨[], .refl _, .nil, rfl⟩
  | cons c w ih =>
    rw [passOver] at h
    cases hs : s.after with
    | nil => simp [hs] at h
    | cons d rest =>
      simp only [hs, Option.ite_none_right_eq_some, beq_iff_eq] at h
      obtain ⟨v, hv, hsame, hgroups⟩ := ih h.2
      exact ⟨d :: v, (Cursor.Takes.step hs).trans hv, .cons h.1 hsame, hgroups⟩

theorem passOver_folded (h : SameName w v) (hs : s.after = v ++ rest) :
    passOver .folded w s = some (s.advance v.length) := by
  induction h generalizing s with
  | nil => rw [List.length_nil, Cursor.advance_zero, passOver]
  | cons hcd _ ih =>
    rw [List.cons_append] at hs
    rw [passOver, hs]
    simp only [hcd, beq_self_eq_true, if_true]
    rw [ih rfl, Cursor.step_eq_advance hs, Cursor.advance_advance, List.length_cons, Nat.add_comm]

theorem takes_of_mem_ends_semicolon (h : t ∈ (literal ";").ends s) :
    s.Takes [';'] t ∧ t.groups = s.groups :=
  takes_of_mem_ends_literal (w := [';']) h

end Pattern

structure MacroOpening where
  keyword : Text
  gap : Text
  same_keyword : List.Forall₂ (fun a c ↦ LetterCase.folded.same a c) "%macro".toList keyword
  isGap_gap : IsGap gap

structure MacroClosing where
  keyword : Text
  gap : Text
  name : Text
  blanks : Text
  same_keyword : List.Forall₂ (fun a c ↦ LetterCase.folded.same a c) "%mend".toList keyword
  isGap_gap : IsGap gap
  isBlank_blanks : ∀ c ∈ blanks, isBlank c

def MacroOpening.text (o : MacroOpening) : Text := o.keyword ++ o.gap

def MacroClosing.text (c : MacroClosing) : Text :=
  c.keyword ++ (c.gap ++ (c.name ++ (c.blanks ++ [';'])))

theorem MacroOpening.name_eq {o o' : MacroOpening} {name name' : Text} (hname : IsRun name)
    (hname' : IsRun name') (h : o.text ++ name = o'.text ++ name') : name = name' := by
  simp only [text, List.append_assoc] at h
  have hlength : o.keyword.length = o'.keyword.length :=
    o.same_keyword.length_eq.symm.trans o'.same_keyword.length_eq
  have hblank {t : Text} (ht : IsRun t) : ∀ c, t.head? = some c → isBlank c = false := by
    simpa using ht.isBlank_head []
  exact (eq_of_append_run o.isGap_gap.blank o'.isGap_gap.blank (hblank hname) (hblank hname')
    (List.append_inj h hlength).2).2

namespace MacroDefinition

open Pattern

variable {s t u e : Cursor} {name rest : Text}

def openingPatterns : List Pattern := [.keyword "%macro", .blanks1, .group 1 .word1]

def closingPatterns : List Pattern :=
  [.keyword "%mend", .blanks1, .again 1 .folded, .blanks, .literal ";"]

theorem pattern_eq : pattern = inOrder (openingPatterns ++ ([.anything] ++ closingPatterns)) := rfl

theorem exists_of_mem_ends_opening (h : t ∈ (inOrder openingPatterns).ends s) :
    ∃ (o : MacroOpening) (name : Text), IsRun name ∧ s.Takes (o.text ++ name) t ∧
      t.group 1 = some name := by
  simp only [openingPatterns, mem_ends_inOrder_cons] at h
  obtain ⟨t₁, h₁, t₂, h₂, _, hgroup, hend⟩ := h
  obtain rfl := List.mem_singleton.mp hend
  obtain ⟨t₃, h₃, rfl⟩ := List.mem_map.mp hgroup
  obtain ⟨keyword, hkeyword, hsame, -⟩ := exists_of_mem_ends_letters h₁
  obtain ⟨gap, hgap, hisGap, -⟩ := exists_of_mem_ends_blanks1 h₂
  obtain ⟨name, hname, hisRun, -⟩ := exists_of_mem_ends_word1 h₃
  exact ⟨⟨keyword, gap, hsame, hisGap⟩, name, hisRun, (hkeyword.trans hgap).trans (hname.record 1),
    Cursor.group_record hname⟩

theorem exists_mem_ends_opening (o : MacroOpening) (hname : IsRun name)
    (hs : s.after = o.text ++ (name ++ rest)) :
    ∃ t ∈ (inOrder openingPatterns).ends s, s.Takes (o.text ++ name) t ∧ t.group 1 = some name := by
  have hlast : (inOrder [.group 1 .word1]).Accepts name := (accepts_word1 hname).group 1
  have haccepts : (inOrder openingPatterns).Accepts (o.keyword ++ (o.gap ++ name)) :=
    (accepts_letters o.same_keyword).inOrder_cons
      ((accepts_blanks1 o.isGap_gap).inOrder_cons hlast)
  rw [← List.append_assoc] at haccepts
  obtain ⟨t, ht, htakes⟩ := haccepts s rest
    (by simp only [hs, MacroOpening.text, List.append_assoc])
  obtain ⟨o', name', hname', htakes', hgroup⟩ := exists_of_mem_ends_opening ht
  have hsame := MacroOpening.name_eq (o := o) hname hname'
    (htakes.take_eq.symm.trans htakes'.take_eq)
  exact ⟨t, ht, htakes, hsame ▸ hgroup⟩

theorem pairwise_ends_opening (s : Cursor) :
    ((inOrder openingPatterns).ends s).Pairwise fun t t' ↦ t'.index < t.index := by
  -- fewer blanks than there are leave no word to follow, so a longer name always comes first
  have hname (t : Cursor) : ((inOrder [.group 1 .word1]).ends t).Pairwise
      fun t t' ↦ t'.index < t.index := by
    change ((word1.ends t).map (t.record 1)).Pairwise _
    exact List.pairwise_map.mpr (pairwise_ends_longest ..)
  have hblank {t t' : Cursor} (ht : t' ∈ (inOrder [.group 1 .word1]).ends t) :
      ∀ c, t.after.head? = some c → isBlank c = false := by
    obtain ⟨t'', ht'', -⟩ := List.mem_map.mp ht
    obtain ⟨name, hname, hisRun, -⟩ := exists_of_mem_ends_word1 ht''
    rw [hname.after_eq]
    exact hisRun.isBlank_head _
  have hrest (t : Cursor) : ((inOrder [.blanks1, .group 1 .word1]).ends t).Pairwise
      fun t t' ↦ t'.index < t.index := by
    rw [ends_inOrder_cons, List.pairwise_flatMap]
    refine ⟨fun u _ ↦ hname u, (pairwise_ends_longest ..).imp_of_mem fun {u u'} hu hu' hlt ↦ ?_⟩
    intro x hx y hy
    exfalso
    obtain ⟨gap, hgap, hisGap, -⟩ := exists_of_mem_ends_blanks1 hu
    obtain ⟨gap', hgap', hisGap', -⟩ := exists_of_mem_ends_blanks1 hu'
    have hsame := (eq_of_append_run hisGap.blank hisGap'.blank (hblank hx) (hblank hy)
      (hgap.after_eq.symm.trans hgap'.after_eq)).1
    rw [hgap.index_eq, hgap'.index_eq, hsame] at hlt
    exact Nat.lt_irrefl _ hlt
  rw [openingPatterns, ends_inOrder_cons]
  rcases ends_letters .folded "%macro" s with hnone | hone
  · rw [keyword, hnone]
    exact .nil
  · rw [keyword, hone, List.flatMap_singleton]
    exact hrest _

theorem exists_of_mem_ends_closing (hname : t.group 1 = some name)
    (h : e ∈ (inOrder closingPatterns).ends t) :
    ∃ c : MacroClosing, SameName name c.name ∧ t.Takes c.text e ∧ e.group 1 = some name := by
  simp only [closingPatterns, mem_ends_inOrder_cons] at h
  obtain ⟨t₁, h₁, t₂, h₂, t₃, h₃, t₄, h₄, t₅, h₅, hend⟩ := h
  obtain rfl := List.mem_singleton.mp hend
  obtain ⟨keyword, hkeyword, hsame, hgroups₁⟩ := exists_of_mem_ends_letters h₁
  obtain ⟨gap, hgap, hisGap, hgroups₂⟩ := exists_of_mem_ends_blanks1 h₂
  obtain ⟨word, hword, hover⟩ := mem_ends_again h₃
  obtain ⟨other, hother, hsameName, hgroups₃⟩ := exists_of_passOver hover
  obtain ⟨blanks, hblanks, hisBlank, hgroups₄⟩ := exists_of_mem_ends_blanks h₄
  obtain ⟨hsemicolon, hgroups₅⟩ := takes_of_mem_ends_semicolon h₅
  -- no part of a closing records a group, so the reference is to the name of the opening
  have hgroup : t₂.group 1 = t.group 1 := by
    rw [Cursor.group, hgroups₂, hgroups₁]
    rfl
  have hgroup' : e.group 1 = t.group 1 := by
    rw [Cursor.group, hgroups₅, hgroups₄, hgroups₃, hgroups₂, hgroups₁]
    rfl
  rw [hgroup, hname, Option.some.injEq] at hword
  refine ⟨⟨keyword, gap, other, blanks, hsame, hisGap, hisBlank⟩, hword ▸ hsameName, ?_,
    hgroup'.trans hname⟩
  exact hkeyword.trans (hgap.trans (hother.trans (hblanks.trans hsemicolon)))

theorem exists_mem_ends_closing {c : MacroClosing} (hname : t.group 1 = some name)
    (hc : SameName name c.name) (ht : t.after = c.text ++ rest) :
    ∃ e ∈ (inOrder closingPatterns).ends t, t.Takes c.text e := by
  simp only [MacroClosing.text, List.append_assoc] at ht
  obtain ⟨t₁, h₁, htakes₁⟩ := accepts_letters c.same_keyword t _ ht
  obtain ⟨v, -, -, hgroups₁⟩ := exists_of_mem_ends_letters h₁
  have ht₁ := List.append_cancel_left (htakes₁.after_eq.symm.trans ht)
  obtain ⟨t₂, h₂, htakes₂⟩ := accepts_blanks1 c.isGap_gap t₁ _ ht₁
  obtain ⟨v, -, -, hgroups₂⟩ := exists_of_mem_ends_blanks1 h₂
  have ht₂ := List.append_cancel_left (htakes₂.after_eq.symm.trans ht₁)
  have hgroup : t₂.group 1 = some name := by
    rw [← hname, Cursor.group, hgroups₂, hgroups₁]
    rfl
  have h₃ : t₂.advance c.name.length ∈ (again 1 .folded).ends t₂ := by
    rw [ends, hgroup]
    simp only [passOver_folded hc ht₂, Option.toList_some, List.mem_singleton]
  have htakes₃ := Cursor.Takes.advance (s := t₂) (n := c.name.length) (by simp [ht₂])
  rw [ht₂, List.take_left] at htakes₃
  have ht₃ := List.append_cancel_left (htakes₃.after_eq.symm.trans ht₂)
  have hlast : (inOrder [.blanks, .literal ";"]).Accepts (c.blanks ++ [';']) :=
    (accepts_blanks c.isBlank_blanks).inOrder_cons (accepts_letters (.cons rfl .nil))
  obtain ⟨e, he, htakes⟩ := hlast _ _ (ht₃.trans (List.append_assoc ..).symm)
  refine ⟨e, ?_, htakes₁.trans (htakes₂.trans (htakes₃.trans htakes))⟩
  simp only [closingPatterns, mem_ends_inOrder_cons (p := .keyword "%mend"),
    mem_ends_inOrder_cons (p := .blanks1), mem_ends_inOrder_cons (p := .again 1 .folded)]
  exact ⟨t₁, h₁, t₂, h₂, _, h₃, he⟩

/-- A closing for a name stands at the beginning of a text. -/
def Closes (name t : Text) : Prop := ∃ c : MacroClosing, SameName name c.name ∧ c.text <+: t

def ClosedIn (name t : Text) : Prop := ∃ x y, t = x ++ y ∧ Closes name y

theorem ends_ne_nil_of_closedIn (hname : t.group 1 = some name) (h : ClosedIn name t.after) :
    (inOrder ([.anything] ++ closingPatterns)).ends t ≠ [] := by
  obtain ⟨x, y, ht, c, hc, z, rfl⟩ := h
  obtain ⟨u, hu, htakes⟩ := accepts_anything x t _ ht
  have hafter := List.append_cancel_left (htakes.after_eq.symm.trans ht)
  obtain ⟨n, -, -, rfl, -⟩ := mem_ends_span hu
  obtain ⟨e, he, -⟩ := exists_mem_ends_closing (t := t.advance n) hname hc hafter
  exact List.ne_nil_of_mem (mem_ends_inOrder_cons.mpr ⟨_, hu, he⟩)

end MacroDefinition

/-- A definition as it is written. -/
structure WrittenMacro where
  opening : MacroOpening
  name : Text
  body : Text
  closing : MacroClosing
  isRun_name : IsRun name
  same_name : SameName name closing.name

namespace WrittenMacro

open Pattern MacroDefinition

variable {s t u e : Cursor}

def text (d : WrittenMacro) : Text := d.opening.text ++ (d.name ++ (d.body ++ d.closing.text))

/-- A definition at the beginning of a text that is preferred to all others there: its name is as
long as it can be, and then its body as short. -/
structure Preferred (d : WrittenMacro) (t : Text) : Prop where
  longest : ∀ name rest, t = d.opening.text ++ (name ++ rest) → IsRun name → ClosedIn name rest →
    name.length ≤ d.name.length
  shortest : ∀ x y, t = d.opening.text ++ (d.name ++ (x ++ y)) → Closes d.name y →
    d.body.length ≤ x.length

theorem exists_of_mem_ends (ht : t ∈ (inOrder openingPatterns).ends s)
    (hu : u ∈ (inOrder [.anything]).ends t) (he : e ∈ (inOrder closingPatterns).ends u) :
    ∃ d : WrittenMacro, s.Takes d.text e ∧ e.group 1 = some d.name ∧
      s.Takes (d.opening.text ++ d.name) t ∧ t.group 1 = some d.name ∧ t.Takes d.body u := by
  obtain ⟨o, name, hisRun, htakes, hname⟩ := exists_of_mem_ends_opening ht
  obtain ⟨n, -, hn, rfl, -⟩ := mem_ends_span hu
  obtain ⟨c, hc, htakes', hname'⟩ := exists_of_mem_ends_closing (t := t.advance n) hname he
  have hbody := Cursor.Takes.advance hn
  refine ⟨⟨o, name, _, c, hisRun, hc⟩, ?_, hname', htakes, hname, hbody⟩
  have hwhole := htakes.trans (hbody.trans htakes')
  rwa [List.append_assoc] at hwhole

theorem exists_preferred (h : (pattern.ends s).head? = some e) :
    ∃ d : WrittenMacro, d.Preferred s.after ∧ s.Takes d.text e ∧ e.group 1 = some d.name := by
  rw [pattern_eq] at h
  obtain ⟨passed, t, left, hopening, hrest, hpassed⟩ := exists_of_head?_ends_append h
  obtain ⟨passed', u, left', hbody, hclosing, hpassed'⟩ := exists_of_head?_ends_append hrest
  have ht : t ∈ (inOrder openingPatterns).ends s := by simp [hopening]
  have hu : u ∈ (inOrder [.anything]).ends t := by simp [hbody]
  obtain ⟨d, hd, hgroup, hname, htgroup, hubody⟩ :=
    exists_of_mem_ends ht hu (List.mem_of_head? hclosing)
  refine ⟨d, ⟨fun longer rest hs hlonger hclosed ↦ ?_, fun x y hs hcloses ↦ ?_⟩, hd, hgroup⟩
  · -- a way with a longer name was passed, so none goes on from it
    by_contra hle
    obtain ⟨t', ht', htakes, hgroup'⟩ := exists_mem_ends_opening d.opening hlonger hs
    have hindex : t.index < t'.index := by
      rw [hname.index_eq, htakes.index_eq, List.length_append, List.length_append]
      omega
    have hmem : t' ∈ passed := mem_of_pairwise (hopening ▸ pairwise_ends_opening s) (hopening ▸ ht')
      (Nat.lt_asymm hindex) (by rintro rfl; omega)
    have hafter : rest = t'.after := List.append_cancel_left
      ((hs.trans (List.append_assoc ..).symm).symm.trans htakes.after_eq)
    exact ends_ne_nil_of_closedIn hgroup' (hafter ▸ hclosed) (hpassed t' hmem)
  · -- and so was one with a shorter body
    obtain ⟨c, hc, z, rfl⟩ := hcloses
    by_contra hle
    have hafter : t.after = x ++ (c.text ++ z) := List.append_cancel_left
      (hname.after_eq.symm.trans (hs.trans (List.append_assoc ..).symm))
    obtain ⟨u', hu', htakes⟩ := accepts_anything x t _ hafter
    have hafter' := List.append_cancel_left (htakes.after_eq.symm.trans hafter)
    have hindex : u'.index < u.index := by
      rw [htakes.index_eq, hubody.index_eq]
      omega
    have hmem : u' ∈ passed' := mem_of_pairwise (hbody ▸ pairwise_ends_shortest ..) (hbody ▸ hu')
      (Nat.lt_asymm hindex) (by rintro rfl; omega)
    obtain ⟨n, -, -, rfl, -⟩ := mem_ends_span hu'
    obtain ⟨e', he', -⟩ := exists_mem_ends_closing (t := t.advance n) htgroup hc hafter'
    rw [hpassed' _ hmem] at he'
    cases he'

theorem length_text_pos (d : WrittenMacro) : 0 < d.text.length := by
  rw [text, MacroOpening.text, List.append_assoc, List.length_append,
    ← d.opening.same_keyword.length_eq]
  exact Nat.add_pos_left (by decide) _

theorem consumes_pattern : pattern.Consumes := by
  intro s e he
  rw [pattern_eq] at he
  obtain ⟨t, ht, he⟩ := mem_ends_inOrder_append.mp he
  obtain ⟨u, hu, he⟩ := mem_ends_inOrder_append.mp he
  obtain ⟨d, hd, -⟩ := exists_of_mem_ends ht hu he
  rw [hd.index_eq]
  exact Nat.lt_add_of_pos_right d.length_text_pos

theorem exists_of_mem_findAll {code : Text} {m : Match} (h : m ∈ pattern.findAll code) :
    ∃ (d : WrittenMacro) (u v : Text), code = u ++ (d.text ++ v) ∧ m.start = u.length ∧
      m.text = d.text ∧ m.group 1 = some d.name ∧ d.Preferred (d.text ++ v) := by
  obtain ⟨u, rest, nonEmpty, rfl, hm⟩ := matchedFrom_of_mem_findFrom h
  rw [consumes_pattern.matchAt_eq, matchAt_false] at hm
  obtain ⟨e, he, rfl⟩ := Option.map_eq_some_iff.mp hm
  obtain ⟨d, hpreferred, hd, hname⟩ := exists_preferred he
  obtain ⟨v, rfl⟩ : ∃ v, rest = d.text ++ v := ⟨_, hd.after_eq⟩
  exact ⟨d, u, v, rfl, Nat.zero_add _, hd.take_eq, hname, hpreferred⟩

end WrittenMacro

namespace MacroDefinition

/-- Every definition that is taken out has for its name the longest beginning of the word after its
keyword for which a closing follows, and it ends with the first such closing. So its name is the
whole word exactly if a closing for that word follows. -/
theorem name_longest_closed (code file : Text) : ∀ m ∈ all code file,
    ∃ (before : Text) (o : MacroOpening) (word rest body : Text) (c : MacroClosing),
      code = before ++ (o.text ++ (word ++ rest)) ∧ IsRun word ∧
      (∀ d, rest.head? = some d → isWord d = false) ∧
      m.code <+: o.text ++ (word ++ rest) ∧ m.code = o.text ++ (m.name ++ (body ++ c.text)) ∧
      m.name ≠ [] ∧ m.name <+: word ∧ SameName m.name c.name ∧
      (m.name = word ↔ ClosedIn word rest) ∧
      (∀ name rest', word ++ rest = name ++ rest' → IsRun name → ClosedIn name rest' →
        name.length ≤ m.name.length) ∧
      ∀ x y, word ++ rest = m.name ++ (x ++ y) → Closes m.name y → body.length ≤ x.length := by
  intro m hm
  obtain ⟨⟨mt, index⟩, hmt, rfl⟩ := List.mem_map.mp hm
  obtain ⟨d, u, v, rfl, -, htext, hgroup, hpreferred⟩ :=
    WrittenMacro.exists_of_mem_findAll (List.fst_mem_of_mem_zipIdx hmt)
  have hname : (ofMatch file mt index).name = d.name := by
    rw [ofMatch, hgroup]
    rfl
  have hcode : (ofMatch file mt index).code = d.text := htext
  rw [hname, hcode]
  -- the word goes on after the name as far as there are word characters
  let after := d.body ++ (d.closing.text ++ v)
  let word := d.name ++ after.takeWhile isWord
  let rest := after.dropWhile isWord
  have hsplit : word ++ rest = d.name ++ after := by
    rw [List.append_assoc, List.takeWhile_append_dropWhile]
  have hd : d.text ++ v = d.opening.text ++ (word ++ rest) := by
    rw [hsplit]
    simp only [WrittenMacro.text, after, List.append_assoc]
  have hword : IsRun word := by
    refine ⟨fun h ↦ d.isRun_name.ne_nil (List.append_eq_nil_iff.mp h).1, fun c hc ↦ ?_⟩
    rcases List.mem_append.mp hc with hc | hc
    · exact d.isRun_name.word c hc
    · exact List.mem_takeWhile_imp hc
  have hrest : ∀ c, rest.head? = some c → isWord c = false := by
    intro c hc
    have h := List.head?_dropWhile_not isWord after
    rw [show (after.dropWhile isWord).head? = some c from hc] at h
    exact h
  have hlongest (name rest' : Text) (h : word ++ rest = name ++ rest') (hrun : IsRun name)
      (hclosed : ClosedIn name rest') : name.length ≤ d.name.length :=
    hpreferred.longest name rest' (by rw [hd, h]) hrun hclosed
  refine ⟨u, d.opening, word, rest, d.body, d.closing, by rw [hd], hword, hrest, ⟨v, hd⟩, rfl,
    d.isRun_name.ne_nil, List.prefix_append _ _, d.same_name, ⟨fun h ↦ ?_, fun h ↦ ?_⟩, hlongest,
    fun x y h hcloses ↦ hpreferred.shortest x y (by rw [hd, h]) hcloses⟩
  · have hafter : rest = after := List.append_cancel_left (h ▸ hsplit)
    exact ⟨d.body, d.closing.text ++ v, hafter, d.closing, h ▸ d.same_name, List.prefix_append _ _⟩
  · exact (List.prefix_append _ _).eq_of_length_le (hlongest word rest rfl hword h)

/-- The keyword for the end stands with a longer name first, and then in another letter case. -/
theorem name_longest_closed_folded :
    let code : Text := "%macro ab; %mend abc; %mend a; %MEND\tAb ; %mend ab;"
    let m : MacroDefinition :=
      ⟨"ab", "%macro ab; %mend abc; %mend a; %MEND\tAb ;", "/* MACRO_0_ab_f */", 0⟩
    m ∈ all code "f" ∧ ∃ (o : MacroOpening) (word rest : Text) (c : MacroClosing),
      IsRun word ∧ m.code <+: o.text ++ (word ++ rest) ∧ m.name <+: word ∧ SameName m.name c.name ∧
      (m.name = word ↔ ClosedIn word rest) := by
  intro code m
  have hm : m ∈ all code "f" := by decide +kernel
  obtain ⟨before, o, word, rest, body, c, -, hword, -, hcode, -, -, hname, hsame, hiff, -⟩ :=
    name_longest_closed code "f" m hm
  exact ⟨hm, o, word, rest, c, hword, hcode, hname, hsame, hiff⟩

/-- A definition whose closing has no name is taken out under a part of its name, together with the
next one, which is closed by that part. -/
theorem exists_named_by_part :
    ∃ (code file : Text) (m : MacroDefinition) (o : MacroOpening) (word rest : Text),
      m ∈ all code file ∧ m.code = o.text ++ (word ++ rest) ∧ IsRun word ∧
      (∀ c, rest.head? = some c → isWord c = false) ∧ m.name ≠ word := by
  let code : Text := "%macro ab; %mend; %macro a; %mend a;"
  let o : MacroOpening := ⟨"%macro", " ",
    .cons rfl (.cons rfl (.cons rfl (.cons rfl (.cons rfl (.cons rfl .nil))))),
    ⟨by decide, List.all_eq_true.mp rfl⟩⟩
  refine ⟨code, "f", ⟨"a", code, "/* MACRO_0_a_f */", 0⟩, o, "ab", "; %mend; %macro a; %mend a;",
    by decide +kernel, rfl, ⟨by decide, List.all_eq_true.mp rfl⟩, fun c hc ↦ ?_, by decide⟩
  cases hc
  rfl

end MacroDefinition

end SasMigration
