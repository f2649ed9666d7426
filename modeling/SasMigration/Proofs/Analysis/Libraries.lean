import SasMigration.Analysis.Dependencies
import SasMigration.Database.Library
import SasMigration.Proofs.Pattern.Scan
import SasMigration.Proofs.Text.Distinct
import SasMigration.Proofs.Text.Occurrence

namespace SasMigration

open Text

/-- What a statement that assigns a library begins with: the keyword in any letter case and the
name, with blanks after each of them. -/
structure LibraryOpening where
  keyword : Text
  gap : Text
  name : Text
  nameGap : Text
  same_keyword : List.Forall₂ (fun a c ↦ LetterCase.folded.same a c) "libname".toList keyword
  isGap_gap : IsGap gap
  isRun_name : IsRun name
  isGap_nameGap : IsGap nameGap

theorem Text.IsGap.semicolon_notMem {t : Text} (h : IsGap t) : ';' ∉ t := fun hmem ↦
  absurd (h.blank _ hmem) (by decide)

theorem Text.IsRun.semicolon_notMem {t : Text} (h : IsRun t) : ';' ∉ t := fun hmem ↦
  absurd (h.word _ hmem) (by decide)

namespace LibraryOpening

open References

variable {s t : Cursor}

def text (o : LibraryOpening) : Text := o.keyword ++ (o.gap ++ (o.name ++ o.nameGap))

theorem exists_of_mem_ends (h : t ∈ libraryPattern.ends s) :
    ∃ o : LibraryOpening, s.Takes o.text t ∧ t.group 1 = some o.name := by
  rw [libraryPattern] at h
  simp only [Pattern.mem_ends_inOrder_cons] at h
  obtain ⟨t₁, h₁, t₂, h₂, _, hgroup, t₄, h₄, hend⟩ := h
  obtain rfl := List.mem_singleton.mp hend
  obtain ⟨t₃, h₃, rfl⟩ := List.mem_map.mp hgroup
  obtain ⟨keyword, hkeyword, hsame, -⟩ := Pattern.exists_of_mem_ends_letters h₁
  obtain ⟨gap, hgap, hisGap, -⟩ := Pattern.exists_of_mem_ends_blanks1 h₂
  obtain ⟨name, hname, hisRun, -⟩ := Pattern.exists_of_mem_ends_word1 h₃
  obtain ⟨nameGap, hnameGap, hisGap', hgroups⟩ := Pattern.exists_of_mem_ends_blanks1 h₄
  refine ⟨⟨keyword, gap, name, nameGap, hsame, hisGap, hisRun, hisGap'⟩, ?_, ?_⟩
  · exact hkeyword.trans (hgap.trans ((hname.record 1).trans hnameGap))
  · rw [Cursor.group, hgroups]
    exact Cursor.group_record hname

theorem accepts (o : LibraryOpening) : libraryPattern.Accepts o.text := by
  have hlast : (Pattern.inOrder [.blanks1]).Accepts o.nameGap :=
    Pattern.accepts_blanks1 o.isGap_nameGap
  exact (Pattern.accepts_letters o.same_keyword).inOrder_cons
    ((Pattern.accepts_blanks1 o.isGap_gap).inOrder_cons
      (((Pattern.accepts_word1 o.isRun_name).group 1).inOrder_cons hlast))

theorem length_keyword (o : LibraryOpening) : o.keyword.length = 7 := o.same_keyword.length_eq.symm

theorem mem_asciiLetters {a : Char} (h : a ∈ "libname".toList) : a ∈ asciiLetters := by
  have hall : ("libname".toList.all fun a ↦ asciiLetters.contains a) = true := by decide
  exact List.contains_iff_mem.mp (List.all_eq_true.mp hall a h)

theorem isRun_keyword (o : LibraryOpening) : IsRun o.keyword :=
  ⟨List.ne_nil_of_length_pos (by rw [o.length_keyword]; omega),
    isWord_of_keyword (fun _ ↦ mem_asciiLetters) o.same_keyword⟩

theorem name_eq {o o' : LibraryOpening} {r r' : Text} (h : o.text ++ r = o'.text ++ r') :
    o.name = o'.name ∧ o.nameGap ++ r = o'.nameGap ++ r' := by
  simp only [text, List.append_assoc] at h
  have hlength : o.keyword.length = o'.keyword.length := by
    rw [o.length_keyword, o'.length_keyword]
  have hkeyword := (List.append_inj h hlength).2
  have hgap := (eq_of_append_run o.isGap_gap.blank o'.isGap_gap.blank
    (o.isRun_name.isBlank_head _) (o'.isRun_name.isBlank_head _) hkeyword).2
  exact eq_of_append_run o.isRun_name.word o'.isRun_name.word (o.isGap_nameGap.isWord_head _)
    (o'.isGap_nameGap.isWord_head _) hgap

theorem semicolon_notMem_text (o : LibraryOpening) : ';' ∉ o.text := by
  simp only [text, List.mem_append, not_or]
  exact ⟨o.isRun_keyword.semicolon_notMem, o.isGap_gap.semicolon_notMem,
    o.isRun_name.semicolon_notMem, o.isGap_nameGap.semicolon_notMem⟩

theorem keyword_ne_append {o o' : LibraryOpening} {c : Char} {y k k' : Text}
    (hc : o'.keyword = c :: k') (hy : y ≠ []) : o.keyword ≠ y ++ c :: k := by
  intro hk
  have hfirst : sameLetter 'l' c := by
    have hsame := o'.same_keyword
    rw [hc] at hsame
    cases hsame with
    | cons hlc _ => exact hlc
  have hdrop := List.forall₂_drop y.length o.same_keyword
  rw [hk, List.drop_left] at hdrop
  obtain ⟨n, hn⟩ : ∃ n, y.length = n + 1 :=
    Nat.exists_eq_succ_of_ne_zero fun h ↦ hy (List.length_eq_zero_iff.mp h)
  have hlater : "libname".toList.drop y.length = "ibname".toList.drop n := by rw [hn]; rfl
  rw [hlater] at hdrop
  cases hletters : "ibname".toList.drop n with
  | nil =>
    rw [hletters] at hdrop
    cases hdrop
  | cons a more =>
    rw [hletters] at hdrop
    have hmem : a ∈ "ibname".toList := List.mem_of_mem_drop (hletters ▸ List.mem_cons_self)
    have hletter : a ∈ asciiLetters := mem_asciiLetters (List.mem_cons_of_mem 'l' hmem)
    cases hdrop with
    | cons hac _ =>
      have hal : a = 'l' := eq_of_sameLetter hletter (by decide) hac hfirst
      exact absurd (hal ▸ hmem) (by decide)

theorem exists_name_eq {o o' : LibraryOpening} {y z r r' : Text} (htext : o.text = y ++ z)
    (hy : y ≠ []) (hz : z ≠ []) (h : z ++ r = o'.text ++ r') :
    ∃ n, o.name = n ++ o'.keyword ∧ y = o.keyword ++ (o.gap ++ n) := by
  obtain ⟨c, k, hk⟩ := List.exists_cons_of_ne_nil o'.isRun_keyword.ne_nil
  have hword : isWord c := o'.isRun_keyword.word c (hk ▸ List.mem_cons_self)
  obtain ⟨z', rfl⟩ : ∃ z', z = c :: z' := by
    obtain ⟨d, z', rfl⟩ := List.exists_cons_of_ne_nil hz
    rw [text, hk] at h
    exact ⟨z', by rw [(List.cons.inj h).1]⟩
  have hblank {g : Text} (hg : IsGap g) (hc : c ∈ g) : False := by
    have := hg.blank c hc
    rw [isBlank_of_isWord hword] at this
    cases this
  -- the part of the name from the keyword on is followed by a blank, like the keyword itself
  have hname {n n' : Text} (hn : o.name = n ++ n') (hz : c :: z' = n' ++ o.nameGap) :
      n' = o'.keyword := by
    rw [hz, List.append_assoc, text, List.append_assoc, List.append_assoc] at h
    refine (eq_of_append_run (fun c hc ↦ ?_) o'.isRun_keyword.word
      (o.isGap_nameGap.isWord_head _) (o'.isGap_gap.isWord_head _) h).1
    exact o.isRun_name.word c (hn ▸ List.mem_append_right _ hc)
  rw [text] at htext
  rcases List.append_eq_append_iff.mp htext with ⟨y₁, rfl, hrest₁⟩ | ⟨k₁, hk₁, hz₁⟩
  · rcases List.append_eq_append_iff.mp hrest₁ with ⟨y₂, rfl, hrest₂⟩ | ⟨g, hg, hz₁⟩
    · rcases List.append_eq_append_iff.mp hrest₂ with ⟨y₃, rfl, hgap⟩ | ⟨n, hn, hz₁⟩
      · exact (hblank o.isGap_nameGap (by simp [hgap])).elim
      · exact ⟨y₂, hname hn hz₁ ▸ hn, rfl⟩
    · cases g with
      | nil =>
        rw [List.append_nil] at hg
        have hkey := hname (n := []) rfl hz₁
        exact ⟨[], hkey, by rw [hg, List.append_nil]⟩
      | cons d g =>
        cases hz₁
        exact (hblank o.isGap_gap (by simp [hg])).elim
  · cases k₁ with
    | nil =>
      obtain ⟨d, g, hg, -⟩ := o.isGap_gap.exists_cons
      rw [List.nil_append, hg] at hz₁
      cases hz₁
      exact (hblank o.isGap_gap (by simp [hg])).elim
    | cons d k₁ =>
      cases hz₁
      exact absurd hk₁ (keyword_ne_append hk hy)

end LibraryOpening

namespace Library

open References Pattern

variable {s t e : Cursor} {code : Text} {m : Match}

def afterOpening : List Pattern := [.group 2 .word1, .group 3 restOfStatement, .literal ";"]

theorem mem_ends_genericStatement :
    e ∈ genericStatement.ends s ↔
      ∃ t ∈ libraryPattern.ends s, e ∈ (inOrder afterOpening).ends t := by
  have hsplit : genericStatement =
      inOrder ([.keyword "libname", .blanks1, .group 1 .word1, .blanks1] ++ afterOpening) := rfl
  rw [hsplit]
  exact mem_ends_inOrder_append

theorem holds_noneOf {c : Char} : (CharSet.noneOf ";").holds c ↔ c ≠ ';' := by
  have hitems : CharSet.noneOf ";" = .ofItems true .distinguished [.char ';'] := rfl
  rw [hitems, ne_comm]
  simp [CharSet.holds, ClassItem.holds, LetterCase.same]

theorem exists_of_mem_ends_afterOpening (h : e ∈ (inOrder afterOpening).ends t) :
    ∃ kind more, IsRun kind ∧ ';' ∉ more ∧ t.Takes (kind ++ (more ++ [';'])) e ∧
      e.group 1 = t.group 1 := by
  rw [afterOpening] at h
  simp only [mem_ends_inOrder_cons] at h
  obtain ⟨_, hgroup₁, _, hgroup₂, t₃, h₃, hend⟩ := h
  obtain rfl := List.mem_singleton.mp hend
  obtain ⟨t₁, h₁, rfl⟩ := List.mem_map.mp hgroup₁
  obtain ⟨t₂, h₂, rfl⟩ := List.mem_map.mp hgroup₂
  obtain ⟨kind, hkind, hisRun, hgroups₁⟩ := exists_of_mem_ends_word1 h₁
  obtain ⟨more, hmore⟩ := takes_of_mem_ends h₂
  have hnone : ';' ∉ more := fun hmem ↦
    holds_noneOf.mp ((holds_of_mem_ends_span h₂ hmore).2 _ hmem) rfl
  obtain ⟨closing, hclosing, hsame, hgroups₃⟩ := exists_of_mem_ends_letters h₃
  have hsemicolon : closing = [';'] := by
    have hsame : List.Forall₂ (fun a b ↦ LetterCase.distinguished.same a b) [';'] closing := hsame
    cases hsame with
    | cons hc hrest =>
      cases hrest
      rw [eq_of_beq hc]
  rw [hsemicolon] at hclosing
  refine ⟨kind, more, hisRun, hnone, (hkind.record 2).trans ((hmore.record 3).trans hclosing), ?_⟩
  obtain ⟨n, -, -, rfl, -⟩ := mem_ends_span h₂
  rw [Cursor.group, hgroups₃]
  change (Cursor.record _ 3 _).group 1 = _
  rw [Cursor.group_record_of_ne (by decide), Cursor.group_advance,
    Cursor.group_record_of_ne (by decide), Cursor.group, hgroups₁]
  rfl

theorem accepts_afterOpening {kind more : Text} (hkind : IsRun kind) (hmore : ';' ∉ more) :
    (inOrder afterOpening).Accepts (kind ++ (more ++ [';'])) := by
  have hrest : restOfStatement.Accepts more :=
    accepts_longest (Nat.zero_le _) fun c hc ↦ holds_noneOf.mpr fun h ↦ hmore (h ▸ hc)
  have hlast : (inOrder [.literal ";"]).Accepts [';'] := accepts_letters (.cons rfl .nil)
  exact ((accepts_word1 hkind).group 2).inOrder_cons ((hrest.group 3).inOrder_cons hlast)

theorem consumes_libraryPattern : libraryPattern.Consumes := by
  intro s t ht
  obtain ⟨o, ho, -⟩ := LibraryOpening.exists_of_mem_ends ht
  have hlength := o.length_keyword
  rw [ho.index_eq, LibraryOpening.text, List.length_append]
  omega

theorem consumes_genericStatement : genericStatement.Consumes := by
  intro s e he
  obtain ⟨t, ht, he⟩ := mem_ends_genericStatement.mp he
  obtain ⟨v, hv⟩ := takes_of_mem_ends he
  have hlt := consumes_libraryPattern s t ht
  rw [hv.index_eq]
  omega

theorem exists_of_mem_findAll (h : m ∈ genericStatement.findAll code) :
    ∃ (o : LibraryOpening) (kind more : Text) (u v : Text), IsRun kind ∧ ';' ∉ more ∧
      m.text = o.text ++ (kind ++ (more ++ [';'])) ∧ code = u ++ (m.text ++ v) ∧
      m.start = u.length ∧ m.group 1 = some o.name := by
  obtain ⟨u, v, e, hcode, hstart, hgroups, he, htakes⟩ := isOf_of_mem_findAll h
  obtain ⟨t, ht, he⟩ := mem_ends_genericStatement.mp he
  obtain ⟨o, ho, hname⟩ := LibraryOpening.exists_of_mem_ends ht
  obtain ⟨kind, more, hkind, hmore, hrest, hgroup⟩ := exists_of_mem_ends_afterOpening he
  refine ⟨o, kind, more, u, v, hkind, hmore, ?_, hcode, hstart, ?_⟩
  · exact htakes.take_eq.symm.trans (ho.trans hrest).take_eq
  · rw [← hname, ← hgroup, Match.group, hgroups]
    rfl

theorem exists_opening_of_mem_findAll (h : m ∈ libraryPattern.findAll code) :
    ∃ (o : LibraryOpening) (u v : Text), m.text = o.text ∧ code = u ++ (o.text ++ v) ∧
      m.start = u.length ∧ m.group 1 = some o.name := by
  obtain ⟨u, v, e, hcode, hstart, hgroups, he, htakes⟩ := isOf_of_mem_findAll h
  obtain ⟨o, ho, hname⟩ := LibraryOpening.exists_of_mem_ends he
  have htext : m.text = o.text := htakes.take_eq.symm.trans ho.take_eq
  refine ⟨o, u, v, htext, htext ▸ hcode, hstart, ?_⟩
  rw [← hname, Match.group, hgroups]
  rfl

theorem accepts_genericStatement (o : LibraryOpening) {kind more : Text} (hkind : IsRun kind)
    (hmore : ';' ∉ more) :
    genericStatement.Accepts (o.text ++ (kind ++ (more ++ [';']))) := by
  intro s rest hs
  rw [List.append_assoc] at hs
  obtain ⟨t, ht, htakes⟩ := o.accepts s _ hs
  have hafter : t.after = kind ++ (more ++ [';']) ++ rest :=
    List.append_cancel_left (htakes.after_eq.symm.trans hs)
  obtain ⟨e, he, htakes'⟩ := accepts_afterOpening hkind hmore t rest hafter
  exact ⟨e, mem_ends_genericStatement.mpr ⟨t, ht, he⟩, htakes.trans htakes'⟩

/-- Between two statements that are found, and before the first, no other statement begins unless
one ends there. -/
theorem mem_of_statement_between {o : LibraryOpening} {kind more u y r v : Text}
    (h : m ∈ genericStatement.findAll code) (hstart : m.start = (u ++ y).length) (hy : y ≠ [])
    (hcode : code = u ++ (y ++ r)) (hkind : IsRun kind) (hmore : ';' ∉ more)
    (hstatement : y ++ r = o.text ++ (kind ++ (more ++ [';'])) ++ v) : ';' ∈ y := by
  obtain ⟨m₁, hm₁⟩ := (accepts_genericStatement o hkind hmore).exists_matchAt u v
  obtain ⟨m₂, hm₂, hle, hlt, -⟩ := consumes_genericStatement.exists_mem_findAll hm₁
  rw [← hstatement, ← hcode] at hm₂
  have hpos := List.length_pos_iff.mpr hy
  rw [List.length_append] at hstart
  have hstop : m₂.stop ≤ m.start := stop_le_of_start_lt hm₂ h (by omega)
  obtain ⟨o₂, kind₂, more₂, u₂, v₂, -, -, htext₂, hcode₂, hstart₂, -⟩ := exists_of_mem_findAll hm₂
  have hends : u ++ (y ++ r) = (u₂ ++ (o₂.text ++ (kind₂ ++ more₂))) ++ ';' :: v₂ := by
    rw [← hcode, hcode₂, htext₂]
    simp only [List.append_assoc, List.singleton_append]
  have hlength : m₂.stop = (u₂ ++ (o₂.text ++ (kind₂ ++ more₂))).length + 1 := by
    rw [Match.stop, hstart₂, htext₂]
    simp only [List.length_append, List.length_singleton]
    omega
  exact mem_of_between hends (by omega) (by omega)

theorem exists_mem_findAll_libraryPattern (h : m ∈ genericStatement.findAll code) :
    ∃ m' ∈ libraryPattern.findAll code, m'.group 1 = m.group 1 := by
  obtain ⟨o, kind, more, u, v, hkind, hmore, htext, hcode, hstart, hname⟩ := exists_of_mem_findAll h
  rw [htext, List.append_assoc] at hcode
  obtain ⟨m₀, hm₀⟩ := o.accepts.exists_matchAt u (kind ++ (more ++ [';']) ++ v)
  obtain ⟨m', hm', hle, hlt, -⟩ := consumes_libraryPattern.exists_mem_findAll hm₀
  rw [← hcode] at hm'
  obtain ⟨o', u', v', htext', hcode', hstart', hname'⟩ := exists_opening_of_mem_findAll hm'
  refine ⟨m', hm', ?_⟩
  rw [hname, hname']
  rw [Match.stop, htext'] at hlt
  rw [hstart'] at hle hlt
  have hsame : u' ++ (o'.text ++ v') = u ++ (o.text ++ (kind ++ (more ++ [';']) ++ v)) :=
    hcode'.symm.trans hcode
  obtain ⟨y, rfl⟩ : u' <+: u :=
    List.prefix_of_prefix_length_le ⟨_, hsame⟩ (List.prefix_append _ _) hle
  rw [List.append_assoc] at hsame
  have hsame := List.append_cancel_left hsame
  by_cases hy : y = []
  · rw [hy] at hsame
    rw [(LibraryOpening.name_eq hsame).1]
  · -- the opening lies within another one, at which a statement begins as well
    exfalso
    rw [List.length_append] at hlt
    obtain ⟨z, hz⟩ : y <+: o'.text :=
      List.prefix_of_prefix_length_le ⟨_, hsame.symm⟩ (List.prefix_append _ _) (by omega)
    have hzne : z ≠ [] := by
      rintro rfl
      rw [← hz, List.append_nil] at hlt
      omega
    have hrest : z ++ v' = o.text ++ (kind ++ (more ++ [';']) ++ v) := by
      rw [← hz, List.append_assoc] at hsame
      exact List.append_cancel_left hsame
    obtain ⟨n, hn, hn'⟩ := LibraryOpening.exists_name_eq hz.symm hy hzne hrest
    let first : LibraryOpening := { o' with nameGap := o.gap, isGap_nameGap := o.isGap_gap }
    have hmore' : ';' ∉ o.nameGap ++ (kind ++ more) := by
      simp only [List.mem_append, not_or]
      exact ⟨o.isGap_nameGap.semicolon_notMem, hkind.semicolon_notMem, hmore⟩
    have hstatement : y ++ (o.text ++ (kind ++ (more ++ [';']) ++ v)) =
        first.text ++ (o.name ++ (o.nameGap ++ (kind ++ more) ++ [';'])) ++ v := by
      simp only [first, LibraryOpening.text, hn, hn', List.append_assoc]
    have hmem := mem_of_statement_between h hstart hy (by rw [hcode, List.append_assoc])
      o.isRun_name hmore' hstatement
    exact o'.semicolon_notMem_text (hz ▸ List.mem_append_left z hmem)

end Library

/-- Without a model the analysis of dependencies ends, and the name of every library that has no
syntax of its own is among the external dependencies. -/
theorem Library.database_mem_external (code : Text) :
    ∃ (dependencies : Fields) (external : List Text),
      DependencyAnalysis.ofCode .absent code = .ok dependencies ∧
      dependencies.get? "external_dependencies" = some (.texts external) ∧
      ∀ l ∈ Library.generic code, l.database ∈ external := by
  refine ⟨_, (References.ofCode code).external, rfl, rfl, fun l hl ↦ ?_⟩
  obtain ⟨m, hm, rfl⟩ := List.mem_map.mp (List.mem_of_mem_filter hl)
  obtain ⟨m', hm', hgroup⟩ := exists_mem_findAll_libraryPattern hm
  refine List.mem_append_right _ (mem_distinctSorted.mpr (List.mem_map.mpr ⟨m', hm', ?_⟩))
  rw [hgroup]
  rfl

/-- The search for libraries also meets one within a statement, where the other meets none. -/
theorem Library.database_mem_external_within :
    let code : Text := "libname xlibname y z libname b c; libname d e;"
    let l : Library := ⟨"xlibname", "y", "z libname b c", []⟩
    l ∈ Library.generic code ∧ ∃ (dependencies : Fields) (external : List Text),
      DependencyAnalysis.ofCode .absent code = .ok dependencies ∧
      dependencies.get? "external_dependencies" = some (.texts external) ∧
      l.database ∈ external := by
  intro code l
  have hl : l ∈ Library.generic code := by decide +kernel
  obtain ⟨dependencies, external, hdependencies, hexternal, hall⟩ := database_mem_external code
  exact ⟨hl, dependencies, external, hdependencies, hexternal, hall l hl⟩

end SasMigration
