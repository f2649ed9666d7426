import SasMigration.Proofs.Conversion.Cuts
import SasMigration.Proofs.Text.Occurrence

namespace SasMigration

namespace Imports

open Text (isBlank)

variable {m x : Text}

/-- The package in which a module lies. -/
def topLevel (m : Text) : Text := m.takeWhile (· != '.')

theorem topLevel_of_notMem (h : '.' ∉ m) : topLevel m = m := by
  rw [topLevel, List.takeWhile_eq_self_iff]
  intro c hc
  rw [bne_iff_ne]
  rintro rfl
  exact h hc

theorem topLevel_append_of_mem (h : '.' ∈ m) (x : Text) : topLevel (m ++ x) = topLevel m := by
  have hshort : ¬ (m.takeWhile (· != '.')).length = m.length := by
    intro hlength
    have hself := (List.takeWhile_prefix (· != '.')).eq_of_length hlength
    have hpoint := List.takeWhile_eq_self_iff.mp hself '.' h
    cases hpoint
  rw [topLevel, List.takeWhile_append, if_neg hshort]
  rfl

theorem topLevel_append_eq_iff : topLevel (m ++ x) = topLevel m ↔ '.' ∈ m ∨ topLevel x = [] := by
  by_cases hm : '.' ∈ m
  · simp [topLevel_append_of_mem hm, hm]
  · have happend : topLevel (m ++ x) = m ++ topLevel x := by
      rw [topLevel, List.takeWhile_append, ← topLevel, topLevel_of_notMem hm, if_pos rfl]
      rfl
    rw [happend, topLevel_of_notMem hm, List.append_right_eq_self]
    simp [hm]

theorem topLevel_eq_nil_iff : topLevel m = [] ↔ m = [] ∨ m.head? = some '.' := by
  cases m with
  | nil => simp [topLevel]
  | cons c m => by_cases hc : c = '.' <;> simp [topLevel, hc]

def Alias.IsSpaced (a : Alias) : Prop := a.before.getLast? = some ' ' ∧ a.after.head? = some ' '

/-- The cuts around the module from which names are imported fall where they should. -/
def Source.IsPlain (s : Source) : Prop :=
  s.before.head? = some ' ' ∧
    -- the cut before the second keyword is made in front of the module
    ¬ (s.before.tail.getLast? = some ' ' ∧ importWord <+: s.module) ∧
    ('.' ∈ s.module ∨
      -- the first keyword is found again at the end of the module
      ¬ (fromWord <:+ s.module ∧ s.after.head? = some ' ') ∧ s.after.getLast? = some ' ')

namespace Statement

def modules (st : Statement) : List Text :=
  match st.source with
  | some s => [s.module]
  | none => st.first.module :: st.more.map (·.item.module)

def leading (st : Statement) : Text :=
  match st.source with
  | some s => s.module
  | none => st.first.module

def openingGap (st : Statement) : Text :=
  match st.source with
  | some s => s.before
  | none => st.gap

/-- The cuts around the leading module fall where they should. -/
def IsPlain (st : Statement) : Prop :=
  match st.source with
  | some s => s.IsPlain
  | none =>
    st.gap.head? = some ' ' ∧ ('.' ∈ st.first.module ∨
      -- the module ends like the one keyword, or is the other one between spaces
      ¬ (st.rest.head? = some ' ' ∧ (importWord <:+ st.first.module ∨
        st.first.module = asWord ∧ st.gap.tail.getLast? = some ' ')) ∧
      ∀ a ∈ st.first.alias?, a.IsSpaced)

theorem isModule_leading (st : Statement) : IsModule st.leading := by
  rw [leading]
  cases st.source with
  | none => exact st.first.isModule
  | some s => exact s.isModule

theorem leading_mem_modules (st : Statement) : st.leading ∈ st.modules := by
  rw [leading, modules]
  cases st.source <;> simp

end Statement

end Imports

namespace Requirements

open Imports
open Text (IsGap isBlank strip stripRight)

variable {st : Statement} {m n g h r y z : Text}

/-- The first item of a list, up to its alias. -/
def firstListed (t : Text) : Text :=
  piece 0 [','] (beforeSpace (asWord ++ [' ']) (beforeWord importWord t))

def betweenWords (t : Text) : Text := beforeSpace importWord (beforeWord fromWord t)

theorem package?_eq (t : Text) :
    package? t =
      if importWord ++ [' '] <+: t then
        some (topLevel (strip (piece 0 [','] (beforeSpace (asWord ++ [' '])
          (piece 1 (importWord ++ [' ']) t)))))
      else if fromWord ++ [' '] <+: t then
        some (topLevel (strip (beforeSpace importWord (piece 1 (fromWord ++ [' ']) t))))
      else none := by
  simp only [← List.isPrefixOf_iff_prefix, topLevel, ← piece_char]
  rfl

theorem text_of_list (hsource : st.source = none) :
    st.text = importWord ++ (st.gap ++ (st.first.module ++ st.rest)) := by
  rw [Statement.text, hsource]
  rfl

theorem text_of_source {s : Source} (hsource : st.source = some s) :
    st.text = fromWord ++ (s.before ++ (s.module ++ (s.after ++ st.listText))) := by
  rw [Statement.text, hsource, Option.elim_some, Source.text]
  simp only [List.append_assoc]

theorem package?_of_list (hsource : st.source = none) (hgap : st.gap = ' ' :: g) :
    package? st.text =
      some (topLevel (strip (firstListed (g ++ (st.first.module ++ st.rest))))) := by
  have htext : st.text = (importWord ++ [' ']) ++ (g ++ (st.first.module ++ st.rest)) := by
    rw [text_of_list hsource, hgap, List.append_assoc]
    rfl
  rw [package?_eq, htext, if_pos (List.prefix_append _ _), piece_one (by simp)]
  rfl

theorem not_word_starts {w w' : Text} (hw : w.head? ≠ w'.head?) (hne : w ≠ []) (hne' : w' ≠ [])
    (z : Text) : ¬ w ++ [' '] <+: w' ++ z := by
  obtain ⟨c, w, rfl⟩ := List.exists_cons_of_ne_nil hne
  obtain ⟨c', w', rfl⟩ := List.exists_cons_of_ne_nil hne'
  intro hstarts
  exact hw (congrArg some (List.cons_prefix_cons.mp hstarts).1)

theorem package?_of_source {s : Source} (hsource : st.source = some s)
    (hgap : s.before = ' ' :: g) :
    package? st.text =
      some (topLevel (strip (betweenWords (g ++ (s.module ++ (s.after ++ st.listText)))))) := by
  have htext : st.text = (fromWord ++ [' ']) ++ (g ++ (s.module ++ (s.after ++ st.listText))) := by
    rw [text_of_source hsource, hgap, List.append_assoc]
    rfl
  rw [package?_eq, htext, List.append_assoc, if_neg (not_word_starts (by decide) (by decide)
    (by decide) _), ← List.append_assoc, if_pos (List.prefix_append _ _), piece_one (by simp)]
  rfl

theorem package?_eq_none_iff (st : Statement) :
    package? st.text = none ↔ st.openingGap.head? ≠ some ' ' := by
  have hspaced {w x z : Text} (hx : IsGap x) (hstarts : w ++ [' '] <+: w ++ (x ++ z)) :
      x.head? = some ' ' := by
    obtain ⟨c, x, rfl⟩ := List.exists_cons_of_ne_nil hx.ne_nil
    have hc := (List.cons_prefix_cons.mp ((List.prefix_append_right_inj w).mp hstarts)).1
    rw [List.head?_cons, hc]
  rw [Statement.openingGap]
  cases hsource : st.source with
  | none =>
    by_cases hspace : st.gap.head? = some ' '
    · obtain ⟨g, hg⟩ := List.head?_eq_some_iff.mp hspace
      simp [package?_of_list hsource hg, hspace]
    · rw [package?_eq, text_of_list hsource,
        if_neg fun hstarts ↦ hspace (hspaced st.isGap hstarts),
        if_neg (not_word_starts (by decide) (by decide) (by decide) _)]
      simp [hspace]
  | some s =>
    by_cases hspace : s.before.head? = some ' '
    · obtain ⟨g, hg⟩ := List.head?_eq_some_iff.mp hspace
      simp [package?_of_source hsource hg, hspace]
    · rw [package?_eq, text_of_source hsource,
        if_neg (not_word_starts (by decide) (by decide) (by decide) _),
        if_neg fun hstarts ↦ hspace (hspaced s.isGap_before hstarts)]
      simp [hspace]

theorem isModuleChar_of_mem_word {c : Char} {w : Text} (hw : w ∈ [fromWord, importWord, asWord])
    (hc : c ∈ w) : isModuleChar c := by
  have hall : ([fromWord, importWord, asWord].all fun w ↦ w.all isModuleChar) = true := by decide
  exact List.all_eq_true.mp (List.all_eq_true.mp hall w hw) c hc

theorem strip_gap_append (hg : ∀ c ∈ g, isBlank c) (hn : ∀ c ∈ n, isModuleChar c) :
    strip (g ++ n) = n := by
  rw [Text.strip_append_of_blank hg]
  exact Text.strip_eq_self fun c hc ↦ isBlank_of_isModuleChar (hn c hc)

theorem strip_gap_module (hg : ∀ c ∈ g, isBlank c) (hm : IsModule m) (z : Text) :
    strip (g ++ (m ++ z)) = m ++ stripRight z := by
  have hlast := List.getLast?_eq_some_getLast hm.ne_nil
  have hc := isBlank_of_isModuleChar (hm.chars _ (List.getLast_mem hm.ne_nil))
  rw [Text.strip_append_of_blank hg, strip, Text.stripLeft_eq_self (hm.isBlank_head z),
    Text.stripRight_append hlast hc]

theorem topLevel_gap_word_ne_nil {w : Text} {c : Char} (hg : IsGap g) (hw : w.getLast? = some c)
    (hc : isBlank c = false) (z : Text) : topLevel (stripRight (g ++ (w ++ z))) ≠ [] := by
  obtain ⟨d, g', rfl, hd, -⟩ := hg.exists_cons
  have hlast : (d :: g' ++ w).getLast? = some c := by rw [List.getLast?_append, hw, Option.some_or]
  rw [← List.append_assoc, Text.stripRight_append hlast hc, ne_eq, topLevel_eq_nil_iff]
  rintro (hnil | hpoint)
  · simp at hnil
  · cases hpoint
    revert hd
    decide

/-! The first module of a list -/

theorem comma_notMem (hg : ∀ c ∈ g, isBlank c) (hm : ∀ c ∈ m, isModuleChar c) : ',' ∉ g ++ m := by
  rw [List.mem_append, not_or]
  exact ⟨notMem_of_blank (by decide) hg, notMem_of_module (by decide) hm⟩

theorem beforeWord_import_gap (hg : ∀ c ∈ g, isBlank c) (y : Text) :
    beforeWord importWord (g ++ y) = g ++ beforeWord importWord y :=
  beforeWord_of_notMem (c := 'i') rfl (notMem_of_blank (by decide) hg) y

theorem firstListed_of_keyword (hn : ∀ c ∈ n, isModuleChar c) (hg : ∀ c ∈ g, isBlank c)
    (hspace : r.head? = some ' ') : firstListed (g ++ (n ++ (importWord ++ r))) = g ++ n := by
  have hcut : beforeWord importWord (g ++ (n ++ (importWord ++ r))) = g ++ n := by
    rw [beforeWord_import_gap hg,
      beforeWord_of_suffix hn (fun c ↦ isModuleChar_of_mem_word (by simp)) hspace]
  have hspaces : ' ' ∉ n := notMem_of_module (by decide) hn
  have hnot : ¬ (g.getLast? = some ' ' ∧ asWord ++ [' '] <+: n) := fun has ↦
    hspaces (has.2.subset (by simp))
  have halias : beforeSpace (asWord ++ [' ']) n = n := piece_zero_of_notMem (c := ' ') rfl hspaces
  rw [firstListed, hcut, beforeSpace_append (d := 'a') hg rfl (by decide) hnot, halias,
    piece_zero_of_notMem (c := ',') rfl (comma_notMem hg hn)]

theorem head?_beforeWord_import (hr : ∀ c, r.head? = some c → isModuleChar c = false) :
    (beforeWord importWord r).head? = r.head? := by
  cases r with
  | nil => rfl
  | cons c r =>
    have hc : 'i' ∉ [c] := by
      intro hmem
      rw [← List.mem_singleton.mp hmem] at hr
      have hi := hr 'i' rfl
      revert hi
      decide
    have hcut := beforeWord_of_notMem (w := importWord) rfl hc r
    rw [List.singleton_append] at hcut
    rw [hcut]
    rfl

theorem firstListed_of_as (hg : ∀ c ∈ g, isBlank c) (hlast : g.getLast? = some ' ')
    (hspace : r.head? = some ' ') : firstListed (g ++ (asWord ++ r)) = g.dropLast := by
  obtain ⟨z, rfl⟩ := List.head?_eq_some_iff.mp hspace
  have hhead := head?_beforeWord_import (r := ' ' :: z) (by rintro c ⟨⟩; decide)
  obtain ⟨y, hy⟩ := List.head?_eq_some_iff.mp hhead
  have hcut : beforeWord importWord (g ++ (asWord ++ ' ' :: z)) = g ++ (asWord ++ ' ' :: y) := by
    rw [beforeWord_import_gap hg, beforeWord_of_notMem (c := 'i') rfl (by decide), hy]
  have halias : beforeSpace (asWord ++ [' ']) (g ++ (asWord ++ ' ' :: y)) = g.dropLast :=
    beforeSpace_of_last (d := 'a') hg rfl (by decide) hlast (by simp)
  have hcomma : ',' ∉ g.dropLast := fun hmem ↦
    notMem_of_blank (by decide) hg (List.mem_of_mem_dropLast hmem)
  rw [firstListed, hcut, halias, piece_zero_of_notMem (c := ',') rfl hcomma]

theorem firstListed_of_apart (hm : ∀ c ∈ m, isModuleChar c) (hg : ∀ c ∈ g, isBlank c)
    (hr : ∀ c, r.head? = some c → isModuleChar c = false)
    (hkeyword : ¬ (importWord <:+ m ∧ r.head? = some ' '))
    (has : ¬ (g.getLast? = some ' ' ∧ m = asWord ∧ r.head? = some ' ')) :
    firstListed (g ++ (m ++ r)) = g ++ (m ++ firstListed r) := by
  have hcut : beforeWord importWord (g ++ (m ++ r)) = g ++ (m ++ beforeWord importWord r) := by
    rw [beforeWord_import_gap hg,
      beforeWord_append hm (fun c ↦ isModuleChar_of_mem_word (by simp)) hr hkeyword]
  have hnot : ¬ (g.getLast? = some ' ' ∧ asWord ++ [' '] <+: m ++ beforeWord importWord r) := by
    rintro ⟨hlast, hstarts⟩
    have hhead := head?_beforeWord_import hr
    rw [← hhead] at hr has
    exact has ⟨hlast, eq_of_word_starts hm (fun c ↦ isModuleChar_of_mem_word (by simp)) hr hstarts⟩
  rw [firstListed, hcut, beforeSpace_append (d := 'a') hg rfl (by decide) hnot,
    beforeSpace_of_notMem (notMem_of_module (by decide) hm), ← List.append_assoc,
    (clear_of_notMem (c := ',') rfl (comma_notMem hg hm) _).piece_zero, List.append_assoc]
  rfl

theorem blank_firstListed (h : EndsItem r) : ∀ c ∈ firstListed r, isBlank c := by
  rcases h with rfl | ⟨x, y, hx, rfl⟩
  · simp [firstListed, beforeWord, beforeSpace, piece, Text.splitOn, Text.splitFrom]
  · have hcut : beforeWord importWord (x ++ ([','] ++ y)) =
        x ++ ([','] ++ beforeWord importWord y) := by
      rw [beforeWord_import_gap hx, beforeWord_of_notMem (c := 'i') rfl (by decide)]
    have hnot (z : Text) : ¬ (x.getLast? = some ' ' ∧ asWord ++ [' '] <+: [','] ++ z) := by
      rintro ⟨-, hstarts⟩
      have hhead := (List.cons_prefix_cons.mp hstarts).1
      revert hhead
      decide
    have hcomma : ',' ∉ x := notMem_of_blank (by decide) hx
    rw [firstListed, show x ++ ',' :: y = x ++ ([','] ++ y) from rfl, hcut,
      beforeSpace_append (d := 'a') hx rfl (by decide) (hnot _), beforeSpace_of_notMem (by decide),
      (clear_of_notMem (c := ',') rfl hcomma _).piece_zero,
      piece_zero_of_starts (by simp) (List.prefix_append _ _), List.append_nil]
    exact hx

theorem exists_beforeWord_alias (a : Alias) (r : Text) :
    ∃ z, beforeWord importWord (a.text ++ r) = a.before ++ (asWord ++ (a.after ++ z)) := by
  refine ⟨beforeWord importWord (a.name ++ r), ?_⟩
  simp only [Alias.text, List.append_assoc]
  rw [beforeWord_import_gap a.isGap_before.blank, beforeWord_of_notMem (c := 'i') rfl (by decide),
    beforeWord_import_gap a.isGap_after.blank]

theorem blank_firstListed_alias {a : Alias} (h : a.IsSpaced) (r : Text) :
    ∀ c ∈ firstListed (a.text ++ r), isBlank c := by
  obtain ⟨z, hz⟩ := exists_beforeWord_alias a r
  obtain ⟨y, hy⟩ := List.head?_eq_some_iff.mp h.2
  have hcut : beforeSpace (asWord ++ [' ']) (a.before ++ (asWord ++ (a.after ++ z))) =
      a.before.dropLast :=
    beforeSpace_of_last (d := 'a') a.isGap_before.blank rfl (by decide) h.1 (by simp [hy])
  have hblank : ∀ c ∈ a.before.dropLast, isBlank c := fun c hc ↦
    a.isGap_before.blank c (List.mem_of_mem_dropLast hc)
  rw [firstListed, hz, hcut,
    piece_zero_of_notMem (c := ',') rfl (notMem_of_blank (by decide) hblank)]
  exact hblank

theorem exists_firstListed_alias {a : Alias} (h : ¬ a.IsSpaced) (r : Text) :
    ∃ z, firstListed (a.text ++ r) = a.before ++ (asWord ++ z) := by
  obtain ⟨z, hz⟩ := exists_beforeWord_alias a r
  have hnot : ¬ (a.before.getLast? = some ' ' ∧ asWord ++ [' '] <+: asWord ++ (a.after ++ z)) := by
    rintro ⟨hlast, hstarts⟩
    refine h ⟨hlast, ?_⟩
    obtain ⟨c, y, hy⟩ := List.exists_cons_of_ne_nil a.isGap_after.ne_nil
    rw [hy] at hstarts
    rw [hy, ← (List.cons_prefix_cons.mp ((List.prefix_append_right_inj asWord).mp hstarts)).1]
    rfl
  have hcomma : ',' ∉ a.before ++ asWord :=
    comma_notMem a.isGap_before.blank fun c ↦ isModuleChar_of_mem_word (by simp)
  refine ⟨piece 0 [','] (beforeSpace (asWord ++ [' ']) (a.after ++ z)), ?_⟩
  rw [firstListed, hz, beforeSpace_append (d := 'a') a.isGap_before.blank rfl (by decide) hnot,
    beforeSpace_of_notMem (by decide), ← List.append_assoc,
    (clear_of_notMem (c := ',') rfl hcomma _).piece_zero, List.append_assoc]

theorem topLevel_rest_eq_nil_iff (st : Statement) :
    topLevel (stripRight (firstListed st.rest)) = [] ↔ ∀ a ∈ st.first.alias?, a.IsSpaced := by
  rw [Statement.rest]
  cases st.first.alias? with
  | none =>
    have hblank := blank_firstListed (endsItem_flatMap st.more)
    rw [aliasText, Option.elim_none, List.nil_append, Text.stripRight_of_blank hblank]
    simp [topLevel]
  | some a =>
    rw [aliasText, Option.elim_some]
    by_cases ha : a.IsSpaced
    · rw [Text.stripRight_of_blank (blank_firstListed_alias ha _)]
      simp [topLevel, ha]
    · obtain ⟨z, hz⟩ := exists_firstListed_alias ha (st.more.flatMap Further.text)
      have hne := topLevel_gap_word_ne_nil (w := asWord) a.isGap_before rfl (by decide) z
      rw [hz]
      simp [hne, ha]

theorem package?_eq_first_iff (hsource : st.source = none) :
    package? st.text = some (topLevel st.first.module) ↔ st.IsPlain := by
  rw [Statement.IsPlain, hsource]
  by_cases hspace : st.gap.head? = some ' '
  · obtain ⟨g, hgap⟩ := List.head?_eq_some_iff.mp hspace
    have hg : ∀ c ∈ g, isBlank c := fun c hc ↦ st.isGap.blank c (by simp [hgap, hc])
    rw [package?_of_list hsource hgap, Option.some_inj, hgap]
    by_cases hkeyword : importWord <:+ st.first.module ∧ st.rest.head? = some ' '
    · -- the module is cut short, which changes its package unless the point comes before
      obtain ⟨⟨n, hn⟩, hhead⟩ := hkeyword
      have hchars : ∀ c ∈ n, isModuleChar c := fun c hc ↦
        st.first.isModule.chars c (by simp [← hn, hc])
      have hpoint : '.' ∉ importWord := by decide
      have htop : topLevel importWord ≠ [] := by decide
      rw [← hn, List.append_assoc, firstListed_of_keyword hchars hg hhead,
        strip_gap_append hg hchars, eq_comm, topLevel_append_eq_iff]
      simp [hhead, hpoint, htop]
    · by_cases has : g.getLast? = some ' ' ∧ st.first.module = asWord ∧ st.rest.head? = some ' '
      · obtain ⟨hlast, hm, hhead⟩ := has
        have hblank : ∀ c ∈ g.dropLast, isBlank c := fun c hc ↦ hg c (List.mem_of_mem_dropLast hc)
        have htop : topLevel [] ≠ topLevel asWord := by decide
        have hpoint : '.' ∉ asWord := by decide
        rw [hm, firstListed_of_as hg hlast hhead, Text.strip_of_blank hblank]
        simp [htop, hpoint, hhead, hlast]
      · have hastray : ¬ (st.rest.head? = some ' ' ∧ (importWord <:+ st.first.module ∨
            st.first.module = asWord ∧ g.getLast? = some ' ')) := by
          rintro ⟨hhead, hsuffix | ⟨hm, hlast⟩⟩
          · exact hkeyword ⟨hsuffix, hhead⟩
          · exact has ⟨hlast, hm, hhead⟩
        rw [firstListed_of_apart st.first.isModule.chars hg st.isModuleChar_head_rest hkeyword has,
          strip_gap_module hg st.first.isModule, topLevel_append_eq_iff, topLevel_rest_eq_nil_iff]
        simp [hastray]
  · have hnone := (package?_eq_none_iff st).mpr (by rwa [Statement.openingGap, hsource])
    simp [hnone, hspace]

/-! The module from which names are imported -/

theorem beforeWord_from_gap (hg : ∀ c ∈ g, isBlank c) (y : Text) :
    beforeWord fromWord (g ++ y) = g ++ beforeWord fromWord y :=
  beforeWord_of_notMem (c := 'f') rfl (notMem_of_blank (by decide) hg) y

theorem importWord_prefix_of_gap (hh : IsGap h) (hstarts : importWord <+: m ++ (h ++ y)) :
    importWord <+: m := by
  obtain ⟨c, x, rfl, hc, -⟩ := hh.exists_cons
  refine Text.prefix_of_prefix_append_cons (fun hmem ↦ ?_) hstarts
  rw [isBlank_of_isModuleChar (isModuleChar_of_mem_word (by simp) hmem)] at hc
  cases hc

theorem topLevel_ne_nil_of_starts (h : importWord <+: m) : topLevel m ≠ [] := by
  obtain ⟨z, rfl⟩ := h
  rw [ne_eq, topLevel_eq_nil_iff]
  rintro (hnil | hpoint)
  · cases hnil
  · cases hpoint

theorem exists_beforeWord_of_apart (hm : ∀ c ∈ m, isModuleChar c) (hg : ∀ c ∈ g, isBlank c)
    (hh : IsGap h) (hkeyword : ¬ (fromWord <:+ m ∧ h.head? = some ' ')) (y : Text) :
    ∃ z, beforeWord fromWord (g ++ (m ++ (h ++ (importWord ++ y)))) =
      g ++ (m ++ (h ++ (importWord ++ z))) := by
  have hhead : (h ++ (importWord ++ y)).head? = h.head? := List.head?_append_of_ne_nil _ hh.ne_nil
  refine ⟨beforeWord fromWord y, ?_⟩
  rw [beforeWord_from_gap hg, beforeWord_append hm (fun c ↦ isModuleChar_of_mem_word (by simp))
    (isModuleChar_head hh _) (by rwa [hhead]), beforeWord_from_gap hh.blank,
    beforeWord_of_notMem (c := 'f') rfl (by decide)]

theorem strip_betweenWords_of_lost (hm : ∀ c ∈ m, isModuleChar c) (hg : ∀ c ∈ g, isBlank c)
    (hh : IsGap h) (hlast : g.getLast? = some ' ') (hstarts : importWord <+: m) (y : Text) :
    strip (betweenWords (g ++ (m ++ (h ++ (importWord ++ y))))) = [] := by
  obtain ⟨x, hx, hcut⟩ : ∃ x, importWord <+: x ∧
      beforeWord fromWord (g ++ (m ++ (h ++ (importWord ++ y)))) = g ++ x := by
    by_cases hkeyword : fromWord <:+ m ∧ h.head? = some ' '
    · obtain ⟨⟨n, rfl⟩, hhead⟩ := hkeyword
      refine ⟨n, Text.prefix_of_prefix_append_cons (c := 'f') (by decide) hstarts, ?_⟩
      rw [List.append_assoc, beforeWord_from_gap hg,
        beforeWord_of_suffix (fun c hc ↦ hm c (List.mem_append_left _ hc))
          (fun c ↦ isModuleChar_of_mem_word (by simp)) (by simp [hhead])]
    · obtain ⟨z, hz⟩ := exists_beforeWord_of_apart hm hg hh hkeyword y
      exact ⟨_, hstarts.trans (List.prefix_append _ _), hz⟩
  rw [betweenWords, hcut, beforeSpace_of_last (d := 'i') hg rfl (by decide) hlast hx]
  exact Text.strip_of_blank fun c hc ↦ hg c (List.mem_of_mem_dropLast hc)

section NotLost

variable (hlost : ¬ (g.getLast? = some ' ' ∧ importWord <+: m))
include hlost

theorem betweenWords_of_keyword (hm : m = n ++ fromWord) (hn : ∀ c ∈ n, isModuleChar c)
    (hg : ∀ c ∈ g, isBlank c) (hspace : r.head? = some ' ') :
    betweenWords (g ++ (m ++ r)) = g ++ n := by
  have hnot : ¬ (g.getLast? = some ' ' ∧ importWord <+: n) := fun h ↦
    hlost ⟨h.1, hm ▸ h.2.trans (List.prefix_append n fromWord)⟩
  have hspaces : beforeSpace importWord n = n :=
    piece_zero_of_notMem (c := ' ') rfl (notMem_of_module (by decide) hn)
  rw [betweenWords, hm, List.append_assoc, beforeWord_from_gap hg,
    beforeWord_of_suffix hn (fun c ↦ isModuleChar_of_mem_word (by simp)) hspace,
    beforeSpace_append (d := 'i') hg rfl (by decide) hnot, hspaces]

theorem exists_betweenWords_of_apart (hm : ∀ c ∈ m, isModuleChar c) (hg : ∀ c ∈ g, isBlank c)
    (hh : IsGap h) (hkeyword : ¬ (fromWord <:+ m ∧ h.head? = some ' ')) (y : Text) :
    ∃ z, betweenWords (g ++ (m ++ (h ++ (importWord ++ y)))) =
      g ++ (m ++ beforeSpace importWord (h ++ (importWord ++ z))) := by
  obtain ⟨z, hz⟩ := exists_beforeWord_of_apart hm hg hh hkeyword y
  refine ⟨z, ?_⟩
  rw [betweenWords, hz, beforeSpace_append (d := 'i') hg rfl (by decide) fun hbegin ↦
      hlost ⟨hbegin.1, importWord_prefix_of_gap hh hbegin.2⟩,
    beforeSpace_of_notMem (notMem_of_module (by decide) hm)]

end NotLost

theorem topLevel_beforeSpace_eq_nil_iff (hh : IsGap h) (z : Text) :
    topLevel (stripRight (beforeSpace importWord (h ++ (importWord ++ z)))) = [] ↔
      h.getLast? = some ' ' := by
  by_cases hlast : h.getLast? = some ' '
  · have hblank : ∀ c ∈ h.dropLast, isBlank c := fun c hc ↦
      hh.blank c (List.mem_of_mem_dropLast hc)
    rw [beforeSpace_of_last (d := 'i') hh.blank rfl (by decide) hlast (List.prefix_append _ _),
      Text.stripRight_of_blank hblank]
    simp [topLevel, hlast]
  · have hne := topLevel_gap_word_ne_nil (w := importWord) hh rfl (by decide)
      (beforeSpace importWord z)
    rw [beforeSpace_append (d := 'i') hh.blank rfl (by decide) fun hbegin ↦ hlast hbegin.1,
      beforeSpace_of_notMem (by decide)]
    simp [hne, hlast]

theorem package?_eq_source_iff {s : Source} (hsource : st.source = some s) :
    package? st.text = some (topLevel s.module) ↔ s.IsPlain := by
  rw [Source.IsPlain]
  by_cases hspace : s.before.head? = some ' '
  · obtain ⟨g, hgap⟩ := List.head?_eq_some_iff.mp hspace
    have hg : ∀ c ∈ g, isBlank c := fun c hc ↦ s.isGap_before.blank c (by simp [hgap, hc])
    rw [package?_of_source hsource hgap, Option.some_inj, hgap, List.tail_cons, Statement.listText]
    by_cases hlost : g.getLast? = some ' ' ∧ importWord <+: s.module
    · have htop : topLevel [] ≠ topLevel s.module := (topLevel_ne_nil_of_starts hlost.2).symm
      rw [strip_betweenWords_of_lost s.isModule.chars hg s.isGap_after hlost.1 hlost.2]
      simp [htop, hlost]
    · by_cases hkeyword : fromWord <:+ s.module ∧ s.after.head? = some ' '
      · obtain ⟨⟨n, hn⟩, hhead⟩ := hkeyword
        have hchars : ∀ c ∈ n, isModuleChar c := fun c hc ↦ s.isModule.chars c (by simp [← hn, hc])
        have htop : topLevel fromWord ≠ [] := by decide
        have hpoint : '.' ∉ fromWord := by decide
        rw [betweenWords_of_keyword hlost hn.symm hchars hg (by simp [hhead]),
          strip_gap_append hg hchars, ← hn, eq_comm, topLevel_append_eq_iff]
        rw [← hn] at hlost
        simp [hlost, htop, hpoint, hhead]
      · obtain ⟨z, hz⟩ :=
          exists_betweenWords_of_apart hlost s.isModule.chars hg s.isGap_after hkeyword _
        rw [hz, strip_gap_module hg s.isModule, topLevel_append_eq_iff,
          topLevel_beforeSpace_eq_nil_iff s.isGap_after]
        simp [hlost, hkeyword]
  · have hnone := (package?_eq_none_iff st).mpr (by rwa [Statement.openingGap, hsource])
    simp [hnone, hspace]

theorem package?_eq_leading_iff (st : Statement) :
    package? st.text = some (topLevel st.leading) ↔ st.IsPlain := by
  cases hsource : st.source with
  | none =>
    rw [Statement.leading, hsource]
    exact package?_eq_first_iff hsource
  | some s =>
    rw [Statement.leading, Statement.IsPlain, hsource]
    exact package?_eq_source_iff hsource

end Requirements

end SasMigration
