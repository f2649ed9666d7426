import Mathlib.Data.List.Infix
import SasMigration.Proofs.Analysis.Libraries
import SasMigration.Proofs.Pattern.Leading
import SasMigration.Proofs.Text.Lines

namespace SasMigration

open Text

namespace Text

variable {w t k : Text} {c : Char}

def beginsLike : Text → Text → Bool
  | [], _ => true
  | _ :: _, [] => false
  | a :: w, c :: t => LetterCase.folded.same a c && beginsLike w t

def hasWord (w t : Text) : Bool := t.tails.any (beginsLike w)

theorem beginsLike_of_prefix (hk : List.Forall₂ (fun a c ↦ LetterCase.folded.same a c) w k)
    (h : k <+: t) : beginsLike w t := by
  induction hk generalizing t with
  | nil => rfl
  | cons hac _ ih =>
    obtain ⟨r, rfl⟩ := h
    rw [List.cons_append, beginsLike, hac, Bool.true_and]
    exact ih (List.prefix_append _ _)

theorem hasWord_of_infix (hk : List.Forall₂ (fun a c ↦ LetterCase.folded.same a c) w k)
    (h : k <:+: t) : hasWord w t := by
  obtain ⟨u, hu, ht⟩ := List.infix_iff_prefix_suffix.mp h
  exact List.any_eq_true.mpr ⟨u, (List.mem_tails u t).mpr ht, beginsLike_of_prefix hk hu⟩

theorem IsRun.notMem_of_isBlank (h : IsRun w) (hc : isBlank c) : c ∉ w := by
  intro hmem
  rw [isBlank_of_isWord (h.word c hmem)] at hc
  cases hc

theorem IsRun.infix_of_infix_cons (h : IsRun w) (hc : isBlank c) (hw : w <:+: c :: t) :
    w <:+: t := by
  obtain ⟨d, w', rfl⟩ := List.exists_cons_of_ne_nil h.ne_nil
  refine Text.infix_of_infix_cons (a := d) rfl ?_ hw
  rintro rfl
  exact h.notMem_of_isBlank hc List.mem_cons_self

theorem toNat_asciiLower (c : Char) :
    (asciiLower c).toNat = if 65 ≤ c.toNat ∧ c.toNat ≤ 90 then c.toNat + 32 else c.toNat := by
  have hrange : c.val ≥ 'A'.val ∧ c.val ≤ 'Z'.val ↔ 65 ≤ c.toNat ∧ c.toNat ≤ 90 := Iff.rfl
  by_cases h : c.val ≥ 'A'.val ∧ c.val ≤ 'Z'.val
  · have hval : (asciiLower c).val = c.val + 32 := congrArg Char.val (dif_pos h)
    have hnat : (asciiLower c).toNat = (c.toNat + 32) % 2 ^ 32 := by
      rw [Char.toNat, hval, UInt32.toNat_add]
      rfl
    have hle := (hrange.mp h).2
    rw [if_pos (hrange.mp h), hnat]
    omega
  · have hsame : asciiLower c = c := dif_neg h
    rw [if_neg (fun h' ↦ h (hrange.mpr h')), hsame]

end Text

namespace Library

variable {kind : Text}

theorem sameLetter_iff_asciiLower {a c : Char} (ha : a ∈ teradata) :
    LetterCase.folded.same a c ↔ asciiLower c = asciiLower a := by
  constructor
  · intro h
    have hall : (teradata.all fun a ↦ (lettersLike a.toNat).all fun n ↦
        asciiLower (Char.ofNat n) == asciiLower a) = true := by decide +kernel
    have hc := List.all_eq_true.mp (List.all_eq_true.mp hall a ha) _ (mem_lettersLike h)
    rwa [Char.ofNat_toNat, beq_iff_eq] at hc
  · intro h
    have hall : (teradata.all fun a ↦ variantsOf (lowerCode a.toNat) == [(asciiLower a).toNat] &&
        (asciiLower a).toNat < 128) = true := by decide +kernel
    have ha' := List.all_eq_true.mp hall a ha
    simp only [Bool.and_eq_true, beq_iff_eq, decide_eq_true_eq] at ha'
    have hcode := toNat_asciiLower c
    have hlower : lowerCode c.toNat = (asciiLower c).toNat := by
      rw [h] at hcode
      rw [lowerCode, h, hcode, if_pos (by split at hcode <;> omega)]
      simp only [Bool.and_eq_true, decide_eq_true_eq]
    change (variantsOf (lowerCode a.toNat)).contains (lowerCode c.toNat) = true
    rw [ha'.1, hlower, h]
    simp

theorem isTeradata_iff :
    isTeradata kind ↔ List.Forall₂ (fun a c ↦ LetterCase.folded.same a c) teradata kind := by
  have hmap : isTeradata kind ↔
      List.Forall₂ (fun a c ↦ asciiLower c = asciiLower a) teradata kind := by
    rw [isTeradata, beq_iff_eq, ← List.forall₂_eq_eq_eq, List.forall₂_map_left_iff,
      List.forall₂_map_right_iff]
    exact ⟨List.Forall₂.flip, List.Forall₂.flip⟩
  rw [hmap]
  constructor
  · intro h
    have hletters := (List.forall₂_and_left teradata kind).mpr ⟨fun _ ha ↦ ha, h⟩
    exact hletters.imp fun a c hac ↦ (sameLetter_iff_asciiLower hac.1).mpr hac.2
  · intro h
    have hletters := (List.forall₂_and_left teradata kind).mpr ⟨fun _ ha ↦ ha, h⟩
    exact hletters.imp fun a c hac ↦ (sameLetter_iff_asciiLower hac.1).mp hac.2

theorem isRun_of_same_kind
    (h : List.Forall₂ (fun a c ↦ LetterCase.folded.same a c) teradata kind) : IsRun kind := by
  have hall : (teradata.all fun a ↦ (lettersLike a.toNat).all fun n ↦ isWord (Char.ofNat n)) =
      true := by decide +kernel
  have hletters := (List.forall₂_and_left teradata kind).mpr ⟨fun _ ha ↦ ha, h⟩
  have hwords : List.Forall₂ (fun c a ↦ isWord c ∧ a ∈ teradata) kind teradata := by
    refine List.Forall₂.flip (hletters.imp fun a c hac ↦ ⟨?_, hac.1⟩)
    have hc := List.all_eq_true.mp (List.all_eq_true.mp hall a hac.1) _ (mem_lettersLike hac.2)
    rwa [Char.ofNat_toNat] at hc
  refine ⟨?_, ((List.forall₂_and_left kind teradata).mp hwords).1⟩
  rintro rfl
  cases h

end Library

/-- A statement that assigns a library: the keyword in any letter case, a name and a kind, each
after a space, and whatever is said of the connection. The keyword does not occur again in it, and a
kind with a syntax of its own is followed by a blank. -/
structure LibraryStatement where
  keyword : Text
  name : Text
  kind : Text
  options : Text
  same_keyword : List.Forall₂ (fun a c ↦ LetterCase.folded.same a c) "libname".toList keyword
  isRun_name : IsRun name
  isRun_kind : IsRun kind
  semicolon_notMem : ';' ∉ options
  isBlank_head : ∀ c, options.head? = some c → isBlank c
  options_ne_nil : List.Forall₂ (fun a c ↦ LetterCase.folded.same a c) Library.teradata kind →
    options ≠ []
  hasWord_eq : ∀ t ∈ [name, kind, options], hasWord "libname" t = false

namespace LibraryOpening

open Pattern

theorem leads (o : LibraryOpening) {q : Pattern} {ps : List Pattern} {w rest : Text}
    {gs : List (Nat × Text)} (hq : q.Leads o.name (o.nameGap ++ w ++ rest) [])
    (hw : ∀ c, (w ++ rest).head? = some c → isBlank c = false)
    (hps : (inOrder ps).Leads w rest gs) :
    (inOrder (.keyword "libname" :: .blanks1 :: .group 1 q :: .blanks1 :: ps)).Leads
      (o.text ++ w) rest (gs ++ [(1, o.name)]) := by
  have hnameGap : (inOrder (.blanks1 :: ps)).Leads (o.nameGap ++ w) rest (gs ++ []) :=
    (leads_blanks1 o.isGap_nameGap hw).inOrder_cons hps
  have hname := (hq.group 1).inOrder_cons hnameGap
  have hgap := (leads_blanks1 o.isGap_gap (by
    rw [List.append_assoc]
    exact o.isRun_name.isBlank_head _)).inOrder_cons hname
  have hkeyword := (leads_keyword _ o.same_keyword).inOrder_cons hgap
  simpa only [text, List.append_assoc, List.append_nil] using hkeyword

end LibraryOpening

namespace LibraryStatement

open Pattern Library

variable {x y k rest : Text} {s : LibraryStatement}

def text (s : LibraryStatement) : Text :=
  s.keyword ++ ' ' :: (s.name ++ ' ' :: (s.kind ++ (s.options ++ [';'])))

theorem isGap_space : IsGap [' '] := by decide

def opening (s : LibraryStatement) : LibraryOpening :=
  ⟨s.keyword, [' '], s.name, [' '], s.same_keyword, isGap_space, s.isRun_name, isGap_space⟩

theorem text_eq (s : LibraryStatement) :
    s.text = s.opening.text ++ (s.kind ++ (s.options ++ [';'])) := by
  simp [text, opening, LibraryOpening.text]

theorem isWord_head_options (s : LibraryStatement) (rest : Text) :
    ∀ c, (s.options ++ ';' :: rest).head? = some c → isWord c = false := by
  intro c hc
  cases hoptions : s.options with
  | nil =>
    rw [hoptions] at hc
    cases hc
    decide
  | cons d options =>
    have hblank := s.isBlank_head d (by rw [hoptions]; rfl)
    rw [hoptions] at hc
    obtain rfl : d = c := Option.some.inj hc
    rw [Bool.eq_false_iff]
    intro hword
    rw [isBlank_of_isWord hword] at hblank
    cases hblank

theorem leads_rest {t : Text} (h : ';' ∉ t) (number : Nat) (rest : Text) :
    (inOrder [.group number restOfStatement, .literal ";"]).Leads (t ++ [';']) rest
      [(number, t)] := by
  have hlast : (inOrder [.literal ";"]).Leads [';'] rest [] := leads_letters rest (.cons rfl .nil)
  have hrest : restOfStatement.Leads t ([';'] ++ rest) [] := by
    refine leads_longest (Nat.zero_le _) (fun c hc ↦ holds_noneOf.mpr fun h' ↦ h (h' ▸ hc)) ?_
    intro c hc
    cases hc
    decide
  exact (hrest.group number).inOrder_cons hlast

theorem leads_genericStatement (s : LibraryStatement) (rest : Text) :
    genericStatement.Leads s.text rest [(3, s.options), (2, s.kind), (1, s.name)] := by
  have hkind := ((leads_word1 s.isRun_kind (by
    rw [List.append_assoc]
    exact s.isWord_head_options rest)).group 2).inOrder_cons (leads_rest s.semicolon_notMem 3 rest)
  rw [text_eq]
  refine s.opening.leads (leads_word1 s.isRun_name ?_) ?_ hkind
  · rw [List.append_assoc]
    exact isGap_space.isWord_head _
  · rw [List.append_assoc]
    exact s.isRun_kind.isBlank_head _

theorem leads_teradataStatement
    (h : List.Forall₂ (fun a c ↦ LetterCase.folded.same a c) teradata s.kind) (rest : Text) :
    teradataStatement.Leads s.text rest [(2, stripLeft s.options), (1, s.name)] := by
  have hsplit : s.options.takeWhile isBlank ++ stripLeft s.options = s.options :=
    List.takeWhile_append_dropWhile
  have hgap : IsGap (s.options.takeWhile isBlank) := by
    refine ⟨?_, fun c hc ↦ List.mem_takeWhile_imp hc⟩
    obtain ⟨c, options, hoptions⟩ := List.exists_cons_of_ne_nil (s.options_ne_nil h)
    have hc := s.isBlank_head c (by rw [hoptions]; rfl)
    simp [hoptions, hc]
  have hsemicolon : ';' ∉ stripLeft s.options := fun hmem ↦
    s.semicolon_notMem (hsplit ▸ List.mem_append_right _ hmem)
  have hhead : ∀ c, (stripLeft s.options ++ [';'] ++ rest).head? = some c → isBlank c = false := by
    intro c hc
    have hfirst := List.head?_dropWhile_not isBlank s.options
    rw [← stripLeft] at hfirst
    cases hleft : stripLeft s.options with
    | nil =>
      rw [hleft] at hc
      cases hc
      decide
    | cons d more =>
      rw [hleft] at hc hfirst
      obtain rfl : d = c := Option.some.inj hc
      exact hfirst
  have hblanks := (leads_blanks1 hgap hhead).inOrder_cons (leads_rest hsemicolon 2 rest)
  have hkind := (leads_keyword _ h).inOrder_cons hblanks
  rw [← List.append_assoc (s.options.takeWhile isBlank), hsplit] at hkind
  rw [text_eq]
  refine s.opening.leads ((leads_word1 s.isRun_name ?_).either _) ?_ hkind
  · rw [List.append_assoc]
    exact isGap_space.isWord_head _
  · rw [List.append_assoc]
    exact s.isRun_kind.isBlank_head _

/-! Where no statement begins -/

theorem exists_keyword_of_mem_ends {ps : List Pattern} {c t : Cursor}
    (h : t ∈ (inOrder (.keyword "libname" :: ps)).ends c) :
    ∃ k, List.Forall₂ (fun a c ↦ LetterCase.folded.same a c) "libname".toList k ∧
      k <+: c.after := by
  obtain ⟨u, hu, -⟩ := mem_ends_inOrder_cons.mp h
  obtain ⟨k, hk, hsame, -⟩ := exists_of_mem_ends_letters hu
  exact ⟨k, hsame, u.after, hk.after_eq.symm⟩

theorem isRun_of_same (h : List.Forall₂ (fun a c ↦ LetterCase.folded.same a c) "libname".toList k) :
    IsRun k :=
  ⟨List.ne_nil_of_length_pos (by rw [← h.length_eq]; decide),
    isWord_of_keyword (fun _ ↦ LibraryOpening.mem_asciiLetters) h⟩

theorem skips_of_blank {ps : List Pattern} (hx : ∀ c ∈ x, isBlank c) :
    (inOrder (.keyword "libname" :: ps)).Skips x rest := by
  intro u v hsplit hv c hc
  rw [List.eq_nil_iff_forall_not_mem]
  intro t ht
  obtain ⟨k, hsame, hk⟩ := exists_keyword_of_mem_ends ht
  obtain ⟨d, k, rfl⟩ := List.exists_cons_of_ne_nil (isRun_of_same hsame).ne_nil
  obtain ⟨e, v, rfl⟩ := List.exists_cons_of_ne_nil hv
  rw [hc, List.cons_append, List.cons_prefix_cons] at hk
  exact (isRun_of_same hsame).notMem_of_isBlank (hx e (by simp [hsplit])) (by simp [hk.1])

theorem eq_nil_of_prefix (htext : s.text = x ++ y) (hy : y ≠ [])
    (hsame : List.Forall₂ (fun a c ↦ LetterCase.folded.same a c) "libname".toList k)
    (hk : k <+: y ++ rest) : x = [] := by
  have hrun := isRun_of_same hsame
  have hspace : ' ' ∉ k := hrun.notMem_of_isBlank (by decide)
  have hlength : k.length = 7 := hsame.length_eq.symm
  have hnone : ∀ t ∈ [s.name, s.kind, s.options], ¬ k <:+: t := by
    intro t ht hinfix
    have hhas := hasWord_of_infix hsame hinfix
    rw [s.hasWord_eq t ht] at hhas
    cases hhas
  have hinner : ¬ k <:+: s.name ++ ' ' :: (s.kind ++ s.options) := by
    intro h
    rcases infix_or_of_infix_append_cons hspace h with h | h
    · exact hnone s.name (by simp) h
    · have h := hrun.infix_of_infix_cons (by decide) h
      cases hoptions : s.options with
      | nil =>
        rw [hoptions, List.append_nil] at h
        exact hnone s.kind (by simp) h
      | cons c options =>
        have hc : c ∉ k := hrun.notMem_of_isBlank (s.isBlank_head c (by rw [hoptions]; rfl))
        rw [hoptions] at h
        rcases infix_or_of_infix_append_cons hc h with h | h
        · exact hnone s.kind (by simp) h
        · exact hnone s.options (by simp) (hoptions ▸ h)
  -- the keyword ends before the semicolon
  obtain ⟨y', d, rfl⟩ := (List.eq_nil_or_concat' y).resolve_left hy
  have hbody : s.keyword ++ ' ' :: (s.name ++ ' ' :: (s.kind ++ s.options)) = x ++ y' ∧
      [';'] = [d] := by
    refine List.append_inj' ?_ rfl
    simpa only [text, List.append_assoc, List.cons_append] using htext
  obtain rfl : ';' = d := List.cons.inj hbody.2 |>.1
  have hk : k <+: y' := by
    refine prefix_of_prefix_append_cons (c := ';') (y := rest) (fun hmem ↦ ?_) (by simpa using hk)
    exact absurd (hrun.word _ hmem) (by decide)
  by_contra hx
  obtain ⟨a, x, rfl⟩ := List.exists_cons_of_ne_nil hx
  obtain ⟨b, keyword, hkeyword⟩ := List.exists_cons_of_ne_nil (s.opening.isRun_keyword).ne_nil
  have hlength' : keyword.length + 1 = 7 := by
    rw [← s.opening.length_keyword, hkeyword, List.length_cons]
  change s.keyword = b :: keyword at hkeyword
  have hrest := hbody.1
  rw [hkeyword, List.cons_append, List.cons_append, List.cons.injEq] at hrest
  have hinfix : k <:+: keyword ++ ' ' :: (s.name ++ ' ' :: (s.kind ++ s.options)) := by
    rw [hrest.2]
    exact hk.isInfix.trans (List.suffix_append x y').isInfix
  rcases infix_or_of_infix_append_cons hspace hinfix with h | h
  · have hle := h.length_le
    omega
  · exact hinner (hrun.infix_of_infix_cons (by decide) h)

theorem exists_of_mem_ends_name {c t : Cursor}
    (h : t ∈ (Pattern.either .word1 (.both (.literal "&") .word1)).ends c) :
    ∃ name, c.Takes name t ∧ (IsRun name ∨ ∃ v, IsRun v ∧ name = '&' :: v) := by
  rcases List.mem_append.mp h with h | h
  · obtain ⟨name, hname, hisRun, -⟩ := exists_of_mem_ends_word1 h
    exact ⟨name, hname, .inl hisRun⟩
  · obtain ⟨u, hu, ht⟩ := List.mem_flatMap.mp h
    obtain ⟨v, hv, hisRun, -⟩ := exists_of_mem_ends_word1 ht
    exact ⟨_, (takes_of_mem_ends_literal hu).1.trans hv, .inr ⟨v, hisRun, rfl⟩⟩

theorem same_kind_of_mem_ends {c t : Cursor} (hc : c.after = s.text ++ rest)
    (h : t ∈ teradataStatement.ends c) :
    List.Forall₂ (fun a c ↦ LetterCase.folded.same a c) teradata s.kind := by
  rw [teradataStatement] at h
  simp only [mem_ends_inOrder_cons] at h
  obtain ⟨t₁, h₁, t₂, h₂, _, hgroup, t₄, h₄, t₅, h₅, t₆, h₆, -⟩ := h
  obtain ⟨t₃, h₃, rfl⟩ := List.mem_map.mp hgroup
  obtain ⟨keyword, hkeyword, hsame, -⟩ := exists_of_mem_ends_letters h₁
  obtain ⟨gap, hgap, hisGap, -⟩ := exists_of_mem_ends_blanks1 h₂
  obtain ⟨name, hname, hform⟩ := exists_of_mem_ends_name h₃
  obtain ⟨nameGap, hnameGap, hisGap', -⟩ := exists_of_mem_ends_blanks1 h₄
  obtain ⟨kind, hkind, hkindSame, -⟩ := exists_of_mem_ends_letters h₅
  obtain ⟨last, hlast, hisGap'', -⟩ := exists_of_mem_ends_blanks1 h₆
  have hafter := (hkeyword.trans (hgap.trans ((hname.record 1).trans
    (hnameGap.trans (hkind.trans hlast))))).after_eq
  rw [hc, text_eq] at hafter
  simp only [List.append_assoc] at hafter
  rcases hform with hisRun | ⟨v, -, rfl⟩
  · let o : LibraryOpening := ⟨keyword, gap, name, nameGap, hsame, hisGap, hisRun, hisGap'⟩
    have hopening : s.opening.text ++ (s.kind ++ (s.options ++ ([';'] ++ rest))) =
        o.text ++ (kind ++ (last ++ t₆.after)) := by
      simpa only [o, LibraryOpening.text, List.append_assoc] using hafter
    have hkindRun := isRun_of_same_kind hkindSame
    have hrest := (eq_of_append_run isGap_space.blank hisGap'.blank (s.isRun_kind.isBlank_head _)
      (hkindRun.isBlank_head _) (LibraryOpening.name_eq hopening).2).2
    obtain rfl : s.kind = kind := (eq_of_append_run s.isRun_kind.word hkindRun.word
      (s.isWord_head_options rest) (hisGap''.isWord_head _) hrest).1
    exact hkindSame
  · -- a reference to a variable is no name, as the statement has one
    have hlength : s.keyword.length = keyword.length := by
      rw [← hsame.length_eq, ← s.same_keyword.length_eq]
    have hkeywords := (List.append_inj (by simpa [opening, LibraryOpening.text] using hafter)
      hlength).2
    have hgaps := (eq_of_append_run isGap_space.blank hisGap.blank (s.isRun_name.isBlank_head _)
      (fun c hc ↦ by cases hc; decide) hkeywords).2
    obtain ⟨d, name, hd⟩ := List.exists_cons_of_ne_nil s.isRun_name.ne_nil
    have hword := s.isRun_name.word d (by rw [hd]; exact List.mem_cons_self)
    rw [hd, List.cons_append, List.cons.injEq] at hgaps
    rw [hgaps.1] at hword
    exact absurd hword (by decide)

theorem skips_teradataStatement
    (h : ¬ List.Forall₂ (fun a c ↦ LetterCase.folded.same a c) teradata s.kind) :
    teradataStatement.Skips s.text rest := by
  intro x y htext hy c hc
  rw [List.eq_nil_iff_forall_not_mem]
  intro t ht
  obtain ⟨k, hsame, hk⟩ := exists_keyword_of_mem_ends ht
  obtain rfl := eq_nil_of_prefix htext hy hsame (hc ▸ hk)
  exact h (same_kind_of_mem_ends (by rw [hc, htext]; rfl) ht)

/-! Programs of one statement a line -/

theorem exists_unlines_cons (s : LibraryStatement) (statements : List LibraryStatement)
    (closing : Text) :
    ∃ gap, (∀ c ∈ gap, isBlank c) ∧ unlines ((s :: statements).map text) ++ closing =
      s.text ++ (gap ++ (unlines (statements.map text) ++ closing)) := by
  cases statements with
  | nil =>
    refine ⟨[], by simp, ?_⟩
    simp only [unlines, join, List.map_cons, List.map_nil, List.intercalate_singleton,
      List.intercalate_nil, List.nil_append]
  | cons s' statements =>
    refine ⟨['\n'], List.all_eq_true.mp rfl, ?_⟩
    simp only [unlines, join, List.map_cons, List.intercalate_cons_cons, List.append_assoc]

/-- A search that takes some statements whole and passes over the others reads the former, in
order. -/
theorem map_findFrom_unlines {p : Pattern} (hp : p.Consumes) {β : Type} (f : Match → β)
    (takes : LibraryStatement → Bool) (entry : LibraryStatement → β)
    (hblank : ∀ x rest, (∀ c ∈ x, isBlank c) → p.Skips x rest)
    (hskips : ∀ s, takes s = false → ∀ rest, p.Skips s.text rest)
    (hleads : ∀ s, takes s → ∀ rest, ∃ gs, p.Leads s.text rest gs ∧
      ∀ m : Match, (∀ number, m.group number = (gs.find? fun g ↦ g.1 == number).map (·.2)) →
        f m = entry s)
    (statements : List LibraryStatement) (closing : Text) (hclosing : ∀ c ∈ closing, isBlank c)
    (size : Nat) (nonEmpty : Bool) (before : List Char) (index : Nat) :
    (p.findFrom size nonEmpty before index (unlines (statements.map text) ++ closing)).map f =
      (statements.filter takes).map entry := by
  induction statements generalizing nonEmpty before index with
  | nil =>
    have hrest : unlines (([] : List LibraryStatement).map text) ++ closing = closing ++ [] := by
      rw [List.append_nil]
      rfl
    rw [hrest, hp.findFrom_of_skips (hblank closing [] hclosing), hp.findFrom_nil]
    rfl
  | cons s statements ih =>
    obtain ⟨gap, hgap, hcode⟩ := exists_unlines_cons s statements closing
    rw [hcode]
    cases htakes : takes s with
    | false =>
      rw [hp.findFrom_of_skips (hskips s htakes _), hp.findFrom_of_skips (hblank gap _ hgap), ih,
        List.filter_cons_of_neg (by simp [htakes])]
    | true =>
      obtain ⟨gs, hgs, hentry⟩ := hleads s htakes
        (gap ++ (unlines (statements.map text) ++ closing))
      obtain ⟨m, -, hm, hfind⟩ := hp.findFrom_of_leads hgs size nonEmpty before index
      rw [hfind, hp.findFrom_of_skips (hblank gap _ hgap), List.map_cons, ih, hentry m hm,
        List.filter_cons_of_pos htakes, List.map_cons]

/-- The statement's kind has a syntax of its own, in any letter case. -/
def IsTeradata (s : LibraryStatement) : Prop :=
  List.Forall₂ (fun a c ↦ LetterCase.folded.same a c) teradata s.kind

instance (s : LibraryStatement) : Decidable s.IsTeradata :=
  inferInstanceAs (Decidable (List.Forall₂ _ teradata s.kind))

/-- What is read from a statement of any other kind. -/
def genericEntry (s : LibraryStatement) : Library :=
  { database := s.name, kind := s.kind, connection := strip s.options, tables := [] }

def teradataEntry (vars : Variables) (s : LibraryStatement) : Library :=
  { database := vars.resolve (schemaOf (strip s.options))
    kind := teradata
    connection := strip s.options
    tables := [{ table := some s.name, operations := [] }] }

theorem ofGeneric_eq {m : Match} (hm : ∀ number, m.group number =
    ([(3, s.options), (2, s.kind), (1, s.name)].find? fun g ↦ g.1 == number).map (·.2)) :
    ofGeneric m = s.genericEntry := by
  rw [ofGeneric, hm 1, hm 2, hm 3]
  rfl

theorem resolve_name (vars : Variables) (s : LibraryStatement) : vars.resolve s.name = s.name := by
  cases hname : s.name with
  | nil => rfl
  | cons c name =>
    have hc : c ≠ '&' := by
      rintro rfl
      exact absurd (s.isRun_name.word '&' (by simp [hname])) (by decide)
    rw [Variables.resolve]
    rintro _ h
    exact hc (List.cons.inj h).1

theorem ofTeradata_eq {vars : Variables} {m : Match} (hm : ∀ number, m.group number =
    ([(2, stripLeft s.options), (1, s.name)].find? fun g ↦ g.1 == number).map (·.2)) :
    ofTeradata vars m = s.teradataEntry vars := by
  have hstrip : strip (stripLeft s.options) = strip s.options := by
    rw [strip, strip, stripLeft, stripLeft, List.dropWhile_idempotent]
  have hconnection : (m.group 2).getD [] = stripLeft s.options := by rw [hm 2]; rfl
  have hname : (m.group 1).getD [] = s.name := by rw [hm 1]; rfl
  simp only [ofTeradata, teradataEntry, hconnection, hname, hstrip, resolve_name]

theorem consumes_teradataStatement : teradataStatement.Consumes := by
  rw [teradataStatement, ← List.nil_append (Pattern.keyword _ :: _)]
  exact consumes_keyword (by decide)

end LibraryStatement

namespace Library

open LibraryStatement

/-- Each statement is read once, by the search for its kind, and the entries come in the order of
the statements. -/
theorem generic_and_ofTeradataAll_unlines (vars : Variables)
    (statements : List LibraryStatement) (closing : Text) (hclosing : ∀ c ∈ closing, isBlank c) :
    generic (unlines (statements.map text) ++ closing) =
        (statements.filter fun s ↦ ¬ s.IsTeradata).map genericEntry ∧
      ofTeradataAll vars (unlines (statements.map text) ++ closing) =
        (statements.filter fun s ↦ s.IsTeradata).map (teradataEntry vars) := by
  constructor
  · have hall := map_findFrom_unlines consumes_genericStatement ofGeneric (fun _ ↦ true)
      genericEntry (fun _ _ ↦ skips_of_blank) (by simp)
      (fun s _ rest ↦ ⟨_, s.leads_genericStatement rest, fun _ ↦ ofGeneric_eq⟩)
      statements closing hclosing
    rw [generic, Pattern.findAll, hall, List.filter_true, List.filter_map]
    refine congrArg _ (List.filter_congr fun s _ ↦ ?_)
    rw [Function.comp_apply, decide_not, Bool.not_inj_iff, Bool.eq_iff_iff, decide_eq_true_iff]
    exact isTeradata_iff
  · refine map_findFrom_unlines consumes_teradataStatement (ofTeradata vars) _
      (teradataEntry vars) (fun _ _ ↦ skips_of_blank) ?_ ?_ statements closing hclosing _ _ _ _
    · intro s hs rest
      exact skips_teradataStatement (of_decide_eq_false hs)
    · intro s hs rest
      exact ⟨_, leads_teradataStatement (of_decide_eq_true hs) rest, fun _ ↦ ofTeradata_eq⟩

/-- Odd letter cases, a kind's name as a library's name, options over two lines and no options. -/
theorem generic_and_ofTeradataAll_of_four :
    let code : Text := "libname a Oracle;\nLİBNAME b TeraData \n schema=&v;\n" ++
      "LIBNAME teradata db2 x=1 ;\nlibname c teradata ;\n"
    generic code = [⟨"a", "Oracle", "", []⟩, ⟨"teradata", "db2", "x=1", []⟩] ∧
      ofTeradataAll [("v", "sales")] code =
        [⟨"sales", "TERADATA", "schema=&v", [⟨some "b", []⟩]⟩,
          ⟨"UNKNOWN", "TERADATA", "", [⟨some "c", []⟩]⟩] := by
  let a : LibraryStatement := ⟨"libname", "a", "Oracle", "", by decide +kernel,
    by decide, by decide, by decide, (Option.all_eq_true _ _).mp rfl, by decide +kernel,
    by decide +kernel⟩
  let b : LibraryStatement := ⟨"LİBNAME", "b", "TeraData", " \n schema=&v", by decide +kernel,
    by decide, by decide, by decide, (Option.all_eq_true _ _).mp rfl, by decide +kernel,
    by decide +kernel⟩
  let c : LibraryStatement := ⟨"LIBNAME", "teradata", "db2", " x=1 ", by decide +kernel,
    by decide, by decide, by decide, (Option.all_eq_true _ _).mp rfl, by decide +kernel,
    by decide +kernel⟩
  let d : LibraryStatement := ⟨"libname", "c", "teradata", " ", by decide +kernel,
    by decide, by decide, by decide, (Option.all_eq_true _ _).mp rfl, by decide +kernel,
    by decide +kernel⟩
  intro code
  have hcode : unlines ([a, b, c, d].map text) ++ ['\n'] = code := by decide +kernel
  obtain ⟨hgeneric, hteradata⟩ := generic_and_ofTeradataAll_unlines [("v", "sales")] [a, b, c, d]
    ['\n'] (List.all_eq_true.mp rfl)
  rw [hcode] at hgeneric hteradata
  exact ⟨hgeneric.trans (by decide +kernel), hteradata.trans (by decide +kernel)⟩

end Library

end SasMigration
