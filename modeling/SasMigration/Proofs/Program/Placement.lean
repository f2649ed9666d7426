import SasMigration.Proofs.Program.Definition
import SasMigration.Proofs.Program.Restoration
import SasMigration.Proofs.Text.Occurrence

namespace SasMigration

open Text

namespace Match

variable {m : Match} {ms ms' : List Match} {index : Nat} {t u new : Text}
  {more : List (Match × Text)}

/-- Matches in a text that begins at `index`, one after the other. -/
def Follow : Nat → Text → List Match → Prop
  | _, _, [] => True
  | index, t, m :: ms =>
    ∃ gap rest, t = gap ++ (m.text ++ rest) ∧ m.start = index + gap.length ∧ Follow m.stop rest ms

/-- A text that begins at `index`, with matches in it replaced where they stand. -/
def fill : Nat → Text → List (Match × Text) → Text
  | _, t, [] => t
  | index, t, (m, new) :: more =>
    t.take (m.start - index) ++ (new ++ fill m.stop (t.drop (m.stop - index)) more)

theorem fill_cons {gap rest : Text} (h : m.start = index + gap.length) :
    fill index (gap ++ (m.text ++ rest)) ((m, new) :: more) =
      gap ++ (new ++ fill m.stop rest more) := by
  have hstart : m.start - index = gap.length := by omega
  have hstop : m.stop - index = (gap ++ m.text).length := by
    rw [stop, List.length_append]
    omega
  rw [fill, hstart, hstop, List.take_left, ← List.append_assoc gap m.text,
    List.drop_left]

theorem Follow.le_start (h : Follow index t ms) : ∀ m ∈ ms, index ≤ m.start := by
  induction ms generalizing index t with
  | nil => simp
  | cons m ms ih =>
    obtain ⟨gap, rest, -, hstart, hms⟩ := h
    have hstop : m.start ≤ m.stop := Nat.le_add_right _ _
    refine List.forall_mem_cons.mpr ⟨by omega, fun m' hm' ↦ ?_⟩
    have hle := ih hms m' hm'
    omega

theorem Follow.of_append (h : Follow index t (ms ++ ms')) : Follow index t ms := by
  induction ms generalizing index t with
  | nil => trivial
  | cons m ms ih =>
    obtain ⟨gap, rest, ht, hstart, hms⟩ := h
    exact ⟨gap, rest, ht, hstart, ih hms⟩

theorem Follow.exists_fill (h : Follow index t (ms ++ ms')) (news : List Text)
    (hnews : news.length = ms.length) :
    ∃ u rest filled, t = u ++ rest ∧ fill index t (ms.zip news) = filled ++ rest ∧
      Follow (index + u.length) rest ms' ∧ ∀ m ∈ ms, m.stop ≤ index + u.length := by
  induction ms generalizing index t news with
  | nil => exact ⟨[], t, [], rfl, by simp [fill], h, by simp⟩
  | cons m ms ih =>
    obtain ⟨new, news, rfl⟩ := List.exists_cons_of_length_eq_add_one hnews
    obtain ⟨gap, rest, rfl, hstart, hms⟩ := h
    obtain ⟨u, rest, filled, rfl, hfill, hrest, hle⟩ := ih hms news (by simpa using hnews)
    have hindex : index + (gap ++ (m.text ++ u)).length = m.stop + u.length := by
      rw [stop, List.length_append, List.length_append]
      omega
    refine ⟨gap ++ (m.text ++ u), rest, gap ++ (new ++ filled), by simp, ?_, hindex ▸ hrest, ?_⟩
    · rw [List.zip_cons_cons, fill_cons hstart, hfill]
      simp
    · rw [hindex]
      exact List.forall_mem_cons.mpr ⟨Nat.le_add_right _ _, hle⟩

theorem follow_of_pairwise (hms : ∀ m ∈ ms, ∃ x y, u ++ t = x ++ (m.text ++ y) ∧ m.start = x.length)
    (hpairs : ms.Pairwise fun m m' ↦ m.stop ≤ m'.start) (hle : ∀ m ∈ ms, u.length ≤ m.start) :
    Follow u.length t ms := by
  induction ms generalizing u t with
  | nil => trivial
  | cons m ms ih =>
    obtain ⟨⟨x, y, hx, hstart⟩, hms⟩ := List.forall_mem_cons.mp hms
    obtain ⟨hnext, hpairs⟩ := List.pairwise_cons.mp hpairs
    obtain ⟨gap, rfl⟩ : u <+: x := List.prefix_of_prefix_length_le ⟨t, hx⟩ (List.prefix_append _ _)
      (hstart ▸ hle m List.mem_cons_self)
    have hstop : (u ++ gap ++ m.text).length = m.stop := by rw [List.length_append, ← hstart, stop]
    have hrest : u ++ t = u ++ gap ++ m.text ++ y := by rw [hx, List.append_assoc _ m.text]
    refine ⟨gap, y, ?_, by rw [hstart, List.length_append], ?_⟩
    · rw [List.append_assoc] at hx
      exact List.append_cancel_left hx
    · rw [← hstop]
      exact ih (hrest ▸ hms) hpairs (hstop.symm ▸ hnext)

theorem follow_findAll (p : Pattern) (t : Text) : Follow 0 t (p.findAll t) := by
  refine follow_of_pairwise (u := []) (fun m hm ↦ ?_) (Pattern.pairwise_findAll p t) (by simp)
  obtain ⟨u, v, e, hsplit, hstart, -⟩ := Pattern.isOf_of_mem_findAll hm
  exact ⟨u, v, hsplit, hstart⟩

end Match

theorem Text.SameName.notMem {name other : Text} {c : Char} (h : SameName name other)
    (hc : c.toNat < 65) (hlower : lowerCode c.toNat = c.toNat) (hname : c ∉ name) : c ∉ other := by
  induction h with
  | nil => simp
  | @cons a b name other hab _ ih =>
    rw [List.mem_cons, not_or] at hname
    rw [List.mem_cons, not_or]
    refine ⟨fun hcb ↦ hname.1 ?_, ih hname.2⟩
    rw [← hcb, hlower] at hab
    exact (Char.toNat_inj.mp (eq_of_lowerCode_eq hc hab)).symm

theorem Text.exists_keyword_eq {w keyword : Text}
    (hw : (w.all fun a ↦ asciiLetters.contains a) = true)
    (h : List.Forall₂ (fun a c ↦ LetterCase.folded.same a c) ('%' :: w) keyword) :
    ∃ letters, keyword = '%' :: letters ∧ '%' ∉ letters ∧
      List.Forall₂ (fun a c ↦ sameLetter a c) w letters := by
  cases h with
  | @cons _ c _ letters hc hletters =>
    obtain rfl : c = '%' := eq_of_sameLetter_alone (by decide) (by decide) hc
    have hw : ∀ a ∈ w, a ∈ asciiLetters := by simpa using hw
    exact ⟨letters, rfl, MacroDefinition.notMem_of_isWord (isWord_of_keyword hw hletters) rfl,
      hletters⟩

theorem Text.notMem_of_isBlank {t : Text} {c : Char} (ht : ∀ c ∈ t, isBlank c)
    (hc : isBlank c = false) : c ∉ t := by
  intro h
  rw [ht c h] at hc
  cases hc

theorem MacroOpening.exists_keyword (o : MacroOpening) :
    ∃ letters, o.keyword = '%' :: letters ∧ '%' ∉ letters ∧
      List.Forall₂ (fun a c ↦ sameLetter a c) "macro".toList letters :=
  exists_keyword_eq (by decide) o.same_keyword

theorem MacroClosing.exists_keyword (c : MacroClosing) :
    ∃ letters, c.keyword = '%' :: letters ∧ '%' ∉ letters ∧
      List.Forall₂ (fun a c ↦ sameLetter a c) "mend".toList letters :=
  exists_keyword_eq (by decide) c.same_keyword

theorem MacroOpening.exists_eq_cons (o : MacroOpening) {name : Text} (hname : IsRun name) :
    ∃ rest, o.text ++ name = '%' :: rest ∧ '%' ∉ rest := by
  obtain ⟨letters, hkeyword, hletters, -⟩ := o.exists_keyword
  refine ⟨letters ++ (o.gap ++ name), ?_, ?_⟩
  · rw [MacroOpening.text, hkeyword, List.append_assoc]
    rfl
  · simp only [List.mem_append, not_or]
    exact ⟨hletters, notMem_of_isBlank o.isGap_gap.blank rfl,
      MacroDefinition.notMem_of_isWord hname.word rfl⟩

namespace WrittenMacro

open MacroDefinition Pattern

theorem exists_opening_eq (d : WrittenMacro) :
    ∃ rest, d.opening.text ++ d.name = '%' :: rest ∧ '%' ∉ rest :=
  d.opening.exists_eq_cons d.isRun_name

theorem exists_closing_eq (d : WrittenMacro) :
    ∃ rest, d.closing.text = '%' :: rest ∧ '%' ∉ rest := by
  obtain ⟨letters, hkeyword, hletters, -⟩ := d.closing.exists_keyword
  have hname : '%' ∉ d.closing.name :=
    d.same_name.notMem (by decide) rfl (notMem_of_isWord d.isRun_name.word rfl)
  refine ⟨letters ++ (d.closing.gap ++ (d.closing.name ++ (d.closing.blanks ++ [';']))), ?_, ?_⟩
  · rw [MacroClosing.text, hkeyword]
    rfl
  · simp only [List.mem_append, not_or]
    exact ⟨hletters, notMem_of_isBlank d.closing.isGap_gap.blank rfl, hname,
      notMem_of_isBlank d.closing.isBlank_blanks rfl, by decide⟩

theorem not_closing_prefix_text (d : WrittenMacro) : ¬ d.closing.text <+: d.text := by
  -- the keywords of a definition and of its closing differ in a letter
  intro h
  obtain ⟨letters, hopening, -, hmacro⟩ := d.opening.exists_keyword
  obtain ⟨letters', hclosing, -, hmend⟩ := d.closing.exists_keyword
  rw [text, MacroOpening.text, MacroClosing.text, hopening, hclosing] at h
  cases hmacro with
  | cons _ hmacro =>
    cases hmend with
    | cons _ hmend =>
      cases hmacro with
      | cons ha _ =>
        cases hmend with
        | cons he _ =>
          simp only [List.cons_append, List.cons_prefix_cons] at h
          exact absurd (eq_of_sameLetter (by decide) (by decide) ha (h.2.2.1 ▸ he)) (by decide)

theorem accepts (d : WrittenMacro) : pattern.Accepts d.text := by
  intro s rest hs
  have hs : s.after = d.opening.text ++ (d.name ++ (d.body ++ (d.closing.text ++ rest))) := by
    rw [hs, text]
    simp only [List.append_assoc]
  obtain ⟨t, ht, htakes, hgroup⟩ := exists_mem_ends_opening d.opening d.isRun_name hs
  have hafter := List.append_cancel_left
    (htakes.after_eq.symm.trans (hs.trans (List.append_assoc ..).symm))
  obtain ⟨u, hu, hbody⟩ := accepts_anything d.body t _ hafter
  have hafter' := List.append_cancel_left (hbody.after_eq.symm.trans hafter)
  obtain ⟨n, -, -, rfl, -⟩ := mem_ends_span hu
  obtain ⟨e, he, hclosing⟩ := exists_mem_ends_closing (t := t.advance n) hgroup d.same_name hafter'
  refine ⟨e, ?_, ?_⟩
  · rw [pattern_eq]
    exact mem_ends_inOrder_append.mpr ⟨t, ht, mem_ends_inOrder_append.mpr ⟨_, hu, he⟩⟩
  · have hwhole := htakes.trans (hbody.trans hclosing)
    rwa [List.append_assoc] at hwhole

theorem Preferred.unbordered {d : WrittenMacro} {v : Text} (h : d.Preferred (d.text ++ v)) :
    Unbordered d.text := by
  -- a definition that began within another and ended with it would be closed too early
  intro x z hxz hx hz hborder
  obtain ⟨head, hhead, hnone⟩ := d.exists_opening_eq
  obtain ⟨tail, htail, hnone'⟩ := d.exists_closing_eq
  have htext : d.text = '%' :: (head ++ (d.body ++ '%' :: tail)) := by
    rw [text, ← List.append_assoc, hhead, htail]
    rfl
  obtain ⟨c, z, rfl⟩ := List.exists_cons_of_ne_nil hz
  obtain ⟨c', x, rfl⟩ := List.exists_cons_of_ne_nil hx
  obtain rfl : c = '%' := by
    rw [htext, List.cons_prefix_cons] at hborder
    exact hborder.1
  -- so `z` opens with the sign, which is in the body or that of the closing
  rw [htext, List.cons_append, List.cons.injEq] at hxz
  obtain ⟨k, rfl, hk⟩ := exists_of_append_cons_eq hnone hxz.2.symm
  obtain ⟨body, hbody, hz'⟩ : ∃ body, d.body = k ++ body ∧ '%' :: z = body ++ '%' :: tail := by
    rcases List.append_eq_append_iff.mp hk with ⟨l, rfl, hl⟩ | ⟨l, hl, hl'⟩
    · cases l with
      | nil => exact ⟨[], by simp, hl.symm⟩
      | cons a l =>
        rw [List.cons_append, List.cons.injEq] at hl
        exact absurd (by simp [hl.2]) hnone'
    · exact ⟨l, hl, hl'⟩
  rw [hz', ← htail] at hborder
  obtain ⟨r, hr⟩ := hborder
  cases body with
  | nil => exact d.not_closing_prefix_text ⟨r, hr⟩
  | cons a body =>
    -- the closing would also stand where the body goes on
    rw [List.append_assoc, htail, htext, List.cons_append, List.cons.injEq, List.cons_append] at hr
    obtain ⟨l, rfl, hl⟩ := exists_of_append_cons_eq hnone hr.2
    have hcloses : Closes d.name (d.closing.text ++ r ++ v) :=
      ⟨d.closing, d.same_name, r ++ v, (List.append_assoc ..).symm⟩
    have hle := h.shortest l _ ?_ hcloses
    · rw [hbody] at hle
      simp only [List.length_append, List.length_cons] at hle
      omega
    · rw [htext, hl, ← List.append_assoc d.opening.text, hhead, htail]
      simp

theorem head?_text (d : WrittenMacro) : d.text.head? = some '%' := by
  obtain ⟨rest, hrest, -⟩ := d.exists_opening_eq
  rw [text, ← List.append_assoc, hrest]
  rfl

theorem getLast?_text (d : WrittenMacro) : d.text.getLast? = some ';' := by
  simp [text, MacroClosing.text, List.getLast?_append]

end WrittenMacro

namespace MacroDefinition

open Match

variable {code file filled rest v x y : Text} {m : Match} {ms ms' : List Match} {index i : Nat}

def placed (file : Text) (ms : List Match) (i : Nat) : List (Match × Text) :=
  ms.zip ((numbered file ms i).map (·.placeholder))

/-- The program with its first `count` definitions replaced where they stand, each by its own
placeholder. -/
def inPlace (code file : Text) (count : Nat) : Text :=
  fill 0 code ((placed file (pattern.findAll code) 0).take count)

theorem placed_cons (file : Text) (m : Match) (ms : List Match) (i : Nat) :
    placed file (m :: ms) i = (m, (ofMatch file m i).placeholder) :: placed file ms (i + 1) := rfl

theorem length_numbered (file : Text) (ms : List Match) (i : Nat) :
    (numbered file ms i).length = ms.length := by simp [numbered]

theorem placed_append (file : Text) (ms ms' : List Match) (i : Nat) :
    placed file (ms ++ ms') i = placed file ms i ++ placed file ms' (i + ms.length) := by
  have hnumbered : numbered file (ms ++ ms') i =
      numbered file ms i ++ numbered file ms' (i + ms.length) := by
    rw [numbered, List.zipIdx_append, List.map_append]
    rfl
  rw [placed, hnumbered, List.map_append, List.zip_append]
  · rfl
  · rw [List.length_map, length_numbered]

theorem inPlace_of_eq_append (h : pattern.findAll code = ms ++ ms') :
    inPlace code file ms.length = fill 0 code (placed file ms 0) := by
  have hlength : (placed file ms 0).length = ms.length := by
    rw [placed, List.length_zip, List.length_map, length_numbered, Nat.min_self]
  rw [inPlace, h, placed_append, List.take_left' hlength]

/-- A definition whose text, where it is found, does not overlap another occurrence of itself. -/
structure Separable (m : Match) : Prop extends Replaceable m where
  unbordered : Unbordered m.text

theorem separable_of_mem_findAll (h : m ∈ pattern.findAll code) : Separable m := by
  obtain ⟨d, u, v, -, -, htext, -, hpreferred⟩ := WrittenMacro.exists_of_mem_findAll h
  exact ⟨replaceable_of_mem_findAll h, htext ▸ hpreferred.unbordered⟩

theorem Unlabelled.within (h : Unlabelled i x) (hv : v <:+: x) : Unlabelled i v :=
  fun j hj hmem ↦ h j hj (hmem.trans hv)

theorem Unlabelled.placeholder (hm : Replaceable m) (hfile : ¬ marker <:+: file)
    (hx : Unlabelled (i + 1) x) (hy : Unlabelled (i + 1) y) :
    Unlabelled (i + 1) (x ++ ((ofMatch file m i).placeholder ++ y)) := by
  intro j hj h
  have hslash : '/' ∉ label j := notMem_label rfl (by decide) (by decide) j
  rcases infix_of_infix_between (head?_placeholderFor ..) (getLast?_placeholderFor ..) hslash h
    with h | h | h
  · exact hx j hj h
  · have := eq_of_label_infix hm.isWord_name hfile h
    omega
  · exact hy j hj h

theorem occursOnce_placeholder (hm : Replaceable m) (hfile : ¬ marker <:+: file)
    (hx : ¬ label i <:+: x) (hy : ¬ label i <:+: y) :
    OccursOnce (ofMatch file m i).placeholder (x ++ ((ofMatch file m i).placeholder ++ y)) := by
  have hslash : '/' ∉ label i := notMem_label rfl (by decide) (by decide) i
  have hplaceholder : (ofMatch file m i).placeholder = _ := placeholderFor_eq ..
  rw [hplaceholder]
  refine occursOnce_marked hslash ?_ (not_label_infix_append hm.isWord_name hfile) hx hy
  simp [List.getLast?_append, List.getLast?_cons]

/-- The definitions before number `i` were replaced where they stood, up to `index`; in the rest of
the program, matches are still to be replaced. -/
structure Stage (filled : Text) (index : Nat) (rest : Text) (ms : List Match) (i : Nat) : Prop where
  separable : ∀ m ∈ ms, Separable m
  follow : Follow index rest ms
  unlabelled : Unlabelled i (filled ++ rest)

theorem Stage.exists_step (hfile : ¬ marker <:+: file) (h : Stage filled index rest (m :: ms) i) :
    ∃ before after, filled ++ rest = before ++ (m.text ++ after) ∧
      (∀ new more, filled ++ fill index rest ((m, new) :: more) =
        before ++ (new ++ fill m.stop after more)) ∧
      Unlabelled i before ∧ Unlabelled i after ∧
      Stage (before ++ (ofMatch file m i).placeholder) m.stop after ms (i + 1) := by
  obtain ⟨hm, hms⟩ := List.forall_mem_cons.mp h.separable
  obtain ⟨gap, after, rfl, hstart, hfollow⟩ := h.follow
  have hsplit : filled ++ (gap ++ (m.text ++ after)) = filled ++ gap ++ (m.text ++ after) := by
    rw [List.append_assoc]
  have hbefore : Unlabelled i (filled ++ gap) := h.unlabelled.within
    (hsplit ▸ (List.prefix_append _ _).isInfix)
  have hafter : Unlabelled i after := h.unlabelled.within
    ⟨filled ++ gap ++ m.text, [], by simp⟩
  have hunlabelled : Unlabelled (i + 1)
      (filled ++ gap ++ ((ofMatch file m i).placeholder ++ after)) :=
    Unlabelled.placeholder hm.toReplaceable hfile (fun j hj ↦ hbefore j (by omega))
      fun j hj ↦ hafter j (by omega)
  refine ⟨filled ++ gap, after, hsplit, fun new more ↦ ?_, hbefore, hafter, hms, hfollow, ?_⟩
  · rw [fill_cons hstart, List.append_assoc]
  · rwa [List.append_assoc]

theorem Stage.restore_fill (hfile : ¬ marker <:+: file) (h : Stage filled index rest ms i) :
    restore (numbered file ms i) (filled ++ fill index rest (placed file ms i)) =
      filled ++ rest := by
  induction ms generalizing filled index rest i with
  | nil => rfl
  | cons m ms ih =>
    obtain ⟨before, after, hsplit, hfill, hbefore, hafter, hstage⟩ := h.exists_step hfile
    have hm := (h.separable m List.mem_cons_self).toReplaceable
    have honce := occursOnce_placeholder hm hfile (hbefore i (Nat.le_refl i))
      (hafter i (Nat.le_refl i))
    have hrest := ih hstage
    rw [List.append_assoc, List.append_assoc] at hrest
    calc restore (numbered file (m :: ms) i) (filled ++ fill index rest (placed file (m :: ms) i))
        = replaceAll (ofMatch file m i).placeholder m.text (restore (numbered file ms (i + 1))
            (before ++ ((ofMatch file m i).placeholder ++
              fill m.stop after (placed file ms (i + 1))))) := by
          rw [placed_cons, hfill]
          rfl
      _ = replaceAll (ofMatch file m i).placeholder m.text
            (before ++ ((ofMatch file m i).placeholder ++ after)) := by rw [hrest]
      _ = before ++ (m.text ++ after) := honce.replaceAll (by simp [ofMatch, placeholderFor_eq])
      _ = filled ++ rest := hsplit.symm

theorem Separable.replaceAll_iff (hm : Separable m) (hfile : ¬ marker <:+: file)
    (hx : Unlabelled i x) (hy : Unlabelled i y) :
    replaceAll m.text (ofMatch file m i).placeholder (x ++ (m.text ++ y)) =
      x ++ ((ofMatch file m i).placeholder ++ y) ↔ OccursOnce m.text (x ++ (m.text ++ y)) := by
  constructor
  · have honce := occursOnce_placeholder hm.toReplaceable hfile (hx i (Nat.le_refl i))
      (hy i (Nat.le_refl i))
    refine occursOnce_of_replaceAll hm.text_ne_nil hm.unbordered honce fun hmem ↦ ?_
    have hlabel : label i <:+: (ofMatch file m i).placeholder :=
      (List.suffix_cons '/' (label i)).isInfix.trans (label_prefix_placeholderFor ..).isInfix
    exact hy i (Nat.le_refl i) (hlabel.trans hmem)
  · exact fun honce ↦ honce.replaceAll hm.text_ne_nil

/-- All definitions are replaced where they stand exactly if the text of each occurs once when it is
its turn. -/
theorem Stage.mainBody_iff (hfile : ¬ marker <:+: file) (h : Stage filled index rest ms i) :
    mainBody (filled ++ rest) (numbered file ms i) =
        filled ++ fill index rest (placed file ms i) ↔
      ∀ k m, ms[k]? = some m →
        OccursOnce m.text (filled ++ fill index rest ((placed file ms i).take k)) := by
  induction ms generalizing filled index rest i with
  | nil => simp [numbered, mainBody, placed, fill]
  | cons m ms ih =>
    obtain ⟨before, after, hsplit, hfill, hbefore, hafter, hstage⟩ := h.exists_step hfile
    obtain ⟨hm, hms⟩ := List.forall_mem_cons.mp h.separable
    have hstep := hm.replaceAll_iff hfile hbefore hafter
    have hnext : mainBody (filled ++ rest) (numbered file (m :: ms) i) = mainBody
        (replaceAll m.text (ofMatch file m i).placeholder (before ++ (m.text ++ after)))
        (numbered file ms (i + 1)) := by
      rw [← hsplit]
      rfl
    have ih := ih hstage
    simp only [List.append_assoc] at ih
    rw [hnext, placed_cons, hfill]
    constructor
    · intro hbody
      -- both sides are undone in the same way, so the first replacement was right
      have hrestored := congrArg (restore (numbered file ms (i + 1))) hbody
      have hback := hstage.restore_fill hfile
      simp only [List.append_assoc] at hback
      have hunlabelled : Unlabelled i (before ++ (m.text ++ after)) := hsplit ▸ h.unlabelled
      rw [hback, restore_mainBody (fun m' hm' ↦ (hms m' hm').toReplaceable) hfile
        (hunlabelled.replaceAll hm.toReplaceable hfile)] at hrestored
      rw [hrestored] at hbody
      intro k m' hm'
      cases k with
      | zero =>
        obtain rfl : m = m' := by simpa using hm'
        rw [List.take_zero, fill, hsplit]
        exact hstep.mp hrestored
      | succ k =>
        rw [List.take_succ_cons, hfill]
        exact ih.mp hbody k m' hm'
    · intro honce
      have hfirst := honce 0 m rfl
      rw [List.take_zero, fill, hsplit] at hfirst
      rw [hstep.mpr hfirst]
      refine ih.mpr fun k m' hm' ↦ ?_
      have hk := honce (k + 1) m' hm'
      rwa [List.take_succ_cons, hfill] at hk

theorem placeholder_infix_fill {d : MacroDefinition} (h : Follow index rest ms)
    (hd : d ∈ numbered file ms i) : d.placeholder <:+: fill index rest (placed file ms i) := by
  induction ms generalizing index rest i with
  | nil => cases hd
  | cons m ms ih =>
    obtain ⟨gap, rest, rfl, hstart, hfollow⟩ := h
    rw [placed_cons, fill_cons hstart]
    rcases List.mem_cons.mp hd with rfl | hd
    · exact ⟨gap, fill m.stop rest (placed file ms (i + 1)), by simp⟩
    · exact (ih hfollow hd).trans ⟨gap ++ (ofMatch file m i).placeholder, [], by simp⟩

theorem not_label_infix_fill {j : Nat} (hfile : ¬ marker <:+: file) (hms : ∀ m ∈ ms, Replaceable m)
    (h : Follow index rest ms) (hj : j < i) (hrest : ¬ label j <:+: rest) :
    ¬ label j <:+: fill index rest (placed file ms i) := by
  induction ms generalizing index rest i with
  | nil => exact hrest
  | cons m ms ih =>
    obtain ⟨hm, hms⟩ := List.forall_mem_cons.mp hms
    obtain ⟨gap, rest, rfl, hstart, hfollow⟩ := h
    rw [placed_cons, fill_cons hstart]
    intro hlabel
    have hslash : '/' ∉ label j := notMem_label rfl (by decide) (by decide) j
    rcases infix_of_infix_between (head?_placeholderFor ..) (getLast?_placeholderFor ..) hslash
      hlabel with hgap | hplaceholder | hfill
    · exact hrest (hgap.trans (List.prefix_append _ _).isInfix)
    · have hij := eq_of_label_infix hm.isWord_name hfile hplaceholder
      omega
    · refine ih hms hfollow (by omega) (fun hmem ↦ hrest (hmem.trans ?_)) hfill
      exact ⟨gap ++ m.text, [], by simp⟩

theorem Stage.occursOnce (hfile : ¬ marker <:+: file) (h : Stage filled index rest ms i) :
    (∀ m ∈ numbered file ms i,
        OccursOnce m.placeholder (filled ++ fill index rest (placed file ms i))) ∧
      (numbered file ms i).Pairwise fun m m' ↦ ∃ x y z,
        filled ++ fill index rest (placed file ms i) =
          x ++ (m.placeholder ++ (y ++ (m'.placeholder ++ z))) := by
  induction ms generalizing filled index rest i with
  | nil => simp [numbered]
  | cons m ms ih =>
    obtain ⟨before, after, -, hfill, hbefore, hafter, hstage⟩ := h.exists_step hfile
    have hm := (h.separable m List.mem_cons_self).toReplaceable
    have hlater : ¬ label i <:+: fill m.stop after (placed file ms (i + 1)) :=
      not_label_infix_fill hfile (fun m' hm' ↦ (hstage.separable m' hm').toReplaceable)
        hstage.follow (Nat.lt_succ_self i) (hafter i (Nat.le_refl i))
    have ih := ih hstage
    simp only [List.append_assoc] at ih
    rw [placed_cons, hfill, numbered_cons]
    refine ⟨List.forall_mem_cons.mpr ⟨?_, ih.1⟩, List.pairwise_cons.mpr ⟨fun d hd ↦ ?_, ih.2⟩⟩
    · exact occursOnce_placeholder hm hfile (hbefore i (Nat.le_refl i)) hlater
    · obtain ⟨y, z, hyz⟩ := placeholder_infix_fill hstage.follow hd
      exact ⟨before, y, z, by rw [← hyz, List.append_assoc]⟩

theorem exists_occurrence_of_fill (hms : ∀ m ∈ ms, Replaceable m) (hfile : '%' ∉ file)
    (hhead : v.head? = some '%') (hlast : v.getLast? = some ';') (hv : ¬ marker <:+: v)
    (h : Follow index rest ms) (hx : x ++ (v ++ y) = fill index rest (placed file ms i)) :
    ∃ u w, rest = u ++ (v ++ w) ∧
      (∀ m ∈ ms, index + u.length < m.start ∨ m.stop ≤ index + u.length) ∧
      ((∀ m ∈ ms, m.stop ≤ index + u.length) → w = y) := by
  induction ms generalizing index rest i x with
  | nil => exact ⟨x, y, hx.symm, by simp, fun _ ↦ rfl⟩
  | cons m ms ih =>
    obtain ⟨hm, hms⟩ := List.forall_mem_cons.mp hms
    obtain ⟨gap, rest, rfl, hstart, hfollow⟩ := h
    have hstop : m.start ≤ m.stop := Nat.le_add_right _ _
    rw [placed_cons, fill_cons hstart] at hx
    have hpercent : '%' ∉ (ofMatch file m i).placeholder :=
      notMem_placeholderFor_of hm.isWord_name hfile rfl rfl (by decide) i
    have hopen : '/' :: marker <+: (ofMatch file m i).placeholder :=
      ((List.prefix_cons_inj '/').mpr (List.prefix_append marker _)).trans
        (label_prefix_placeholderFor ..)
    have hnone : ¬ '/' :: marker <:+: v := fun hmem ↦
      hv ((List.suffix_cons '/' marker).isInfix.trans hmem)
    rcases occurrence_before_or_after hhead hpercent hopen hlast (by decide) hnone hx
      with ⟨z, rfl⟩ | ⟨z, rfl, hz⟩
    · -- before the first of the matches, and so before all
      have hlt : index + x.length < m.start := by
        have hpos := List.length_pos_of_mem (List.mem_of_head? hhead)
        simp only [List.length_append] at hstart
        omega
      refine ⟨x, z ++ (m.text ++ rest), by simp, ?_, fun hall ↦ ?_⟩
      · refine List.forall_mem_cons.mpr ⟨.inl hlt, fun m' hm' ↦ .inl ?_⟩
        have hle := hfollow.le_start m' hm'
        omega
      · have hle := hall m List.mem_cons_self
        omega
    · obtain ⟨u, w, rfl, hout, hrest⟩ := ih hms hfollow hz.symm
      have hindex : index + (gap ++ (m.text ++ u)).length = m.stop + u.length := by
        rw [stop, List.length_append, List.length_append]
        omega
      refine ⟨gap ++ (m.text ++ u), w, by simp, ?_, fun hall ↦ ?_⟩
      · rw [hindex]
        exact List.forall_mem_cons.mpr ⟨.inr (Nat.le_add_right _ _), hout⟩
      · rw [hindex] at hall
        exact hrest (List.forall_mem_cons.mp hall).2

theorem exists_inPlace_eq (file : Text) (h : pattern.findAll code = ms ++ m :: ms') :
    ∃ u filled rest, code = u ++ (m.text ++ rest) ∧ m.start = u.length ∧
      inPlace code file ms.length = filled ++ (m.text ++ rest) ∧ ∀ m' ∈ ms, m'.stop ≤ u.length := by
  have hfollow := follow_findAll pattern code
  rw [h] at hfollow
  obtain ⟨u, after, filled, hsplit, hfill, ⟨gap, rest, rfl, hstart, -⟩, hbefore⟩ :=
    hfollow.exists_fill ((numbered file ms 0).map (·.placeholder))
      (by rw [List.length_map, length_numbered])
  refine ⟨u ++ gap, filled ++ gap, rest, ?_, ?_, ?_, fun m' hm' ↦ ?_⟩
  · rw [List.append_assoc, hsplit]
  · rw [hstart, Nat.zero_add, List.length_append]
  · rw [inPlace_of_eq_append h, List.append_assoc]
    exact hfill
  · have hle := hbefore m' hm'
    rw [List.length_append]
    omega

/-- The text of a definition occurs once when it is its turn exactly if no later definition has it
at one of its places. -/
theorem occursOnce_inPlace_iff (hcode : ¬ marker <:+: code) (hfile : '%' ∉ file)
    (h : pattern.findAll code = ms ++ m :: ms') :
    OccursOnce m.text (inPlace code file ms.length) ↔ ∀ m' ∈ ms', ∀ x y,
      code = x ++ (m.text ++ y) → ¬ (m'.start ≤ x.length ∧ x.length < m'.stop) := by
  have hm : m ∈ pattern.findAll code := by simp [h]
  have hseparable := separable_of_mem_findAll hm
  obtain ⟨u, filled, rest, hsplit, hstart, hturn, hbefore⟩ := exists_inPlace_eq file h
  have hstop : m.stop = (u ++ m.text).length := by rw [stop, hstart, ← List.length_append]
  rw [hturn]
  constructor
  · rintro honce m' hm' x y hx ⟨hlow, -⟩
    have hpairs := Pattern.pairwise_findAll pattern code
    rw [h, List.pairwise_append, List.pairwise_cons] at hpairs
    have hle : m.stop ≤ m'.start := hpairs.2.1.1 m' hm'
    -- the later occurrence lies in what is left of the program
    rw [hx, ← List.append_assoc u] at hsplit
    obtain ⟨z, rfl⟩ : u ++ m.text <+: x := List.prefix_of_prefix_length_le
      ⟨rest, hsplit.symm⟩ (List.prefix_append _ _) (by omega)
    rw [List.append_assoc] at hsplit
    have hrest := List.append_cancel_left hsplit
    exact not_occursOnce_of_infix hseparable.text_ne_nil ⟨z, y, by rw [← hrest]; simp⟩ honce
  · intro hnone
    rw [occursOnce_iff]
    rintro x ⟨y, hy⟩
    rw [List.append_assoc] at hy
    have hms : ∀ m' ∈ ms, Replaceable m' := fun m' hm' ↦
      have hmem : m' ∈ pattern.findAll code := by simp [h, hm']
      replaceable_of_mem_findAll hmem
    have hmarker : ¬ marker <:+: m.text := fun hmem ↦
      hcode (hmem.trans ⟨u, rest, by rw [hsplit, List.append_assoc]⟩)
    obtain ⟨d, -, -, -, -, htext, -, -⟩ := WrittenMacro.exists_of_mem_findAll hm
    have hfollow := follow_findAll pattern code
    rw [h] at hfollow
    rw [inPlace_of_eq_append h] at hturn
    obtain ⟨w, w', hw, hout, hsame⟩ := exists_occurrence_of_fill hms hfile
      (htext ▸ d.head?_text) (htext ▸ d.getLast?_text) hmarker hfollow.of_append
      (hy.trans hturn.symm)
    -- the definition that is found at this place of the program, or around it
    obtain ⟨m₀, hm₀⟩ := (htext ▸ d.accepts : pattern.Accepts m.text).exists_matchAt w w'
    obtain ⟨m', hm', hlow, hhigh, -⟩ := WrittenMacro.consumes_pattern.exists_mem_findAll hm₀
    rw [← hw, h, List.mem_append, List.mem_cons] at hm'
    rcases hm' with hm' | rfl | hm'
    · have := hout m' hm'
      omega
    · obtain ⟨rfl, rfl⟩ := hseparable.unbordered.eq_of_within (hsplit.symm.trans hw)
        (hstart ▸ hlow) (hstop ▸ hhigh)
      obtain rfl := hsame (by simpa using hbefore)
      exact List.append_cancel_right hy
    · exact absurd ⟨hlow, hhigh⟩ (hnone m' hm' w w' hw)

/-- If neither the program nor the file name holds the text that marks placeholders, the main body
is the program with every definition replaced where it stands by its own placeholder, exactly if the
text of each definition occurs once when those before it are replaced. With no percent sign in the
file name, this is so exactly if no definition's text begins at a place of a later one. In the
program with all definitions so replaced, every placeholder occurs once, and in their order. -/
theorem mainBody_eq_inPlace_iff (code file : Text) (hcode : ¬ marker <:+: code)
    (hfile : ¬ marker <:+: file) :
    let found := pattern.findAll code
    let whole := inPlace code file found.length
    (mainBody code (all code file) = whole ↔
      ∀ k m, found[k]? = some m → OccursOnce m.text (inPlace code file k)) ∧
    ('%' ∉ file → (mainBody code (all code file) = whole ↔
      found.Pairwise fun m m' ↦ ∀ x y, code = x ++ (m.text ++ y) →
        ¬ (m'.start ≤ x.length ∧ x.length < m'.stop))) ∧
    (∀ m ∈ all code file, OccursOnce m.placeholder whole) ∧
    (all code file).Pairwise fun m m' ↦ ∃ x y z,
      whole = x ++ (m.placeholder ++ (y ++ (m'.placeholder ++ z))) := by
  intro found whole
  have hstage : Stage [] 0 code found 0 := by
    refine ⟨fun m hm ↦ separable_of_mem_findAll hm, follow_findAll pattern code, fun i _ h ↦ ?_⟩
    exact hcode ((List.prefix_append marker _).isInfix.trans h)
  have hwhole : whole = fill 0 code (placed file found 0) :=
    inPlace_of_eq_append (List.append_nil _).symm
  have hiff : mainBody code (all code file) = whole ↔
      ∀ k m, found[k]? = some m → OccursOnce m.text (inPlace code file k) := by
    rw [hwhole]
    exact hstage.mainBody_iff hfile
  obtain ⟨honce, horder⟩ := hstage.occursOnce hfile
  rw [List.nil_append, ← hwhole] at honce horder
  refine ⟨hiff, fun hpercent ↦ hiff.trans ?_, honce, horder⟩
  have hk (k : Nat) (hk : k < found.length) :
      OccursOnce found[k].text (inPlace code file k) ↔ ∀ m' ∈ found.drop (k + 1), ∀ x y,
        code = x ++ (found[k].text ++ y) → ¬ (m'.start ≤ x.length ∧ x.length < m'.stop) := by
    have hsplit : found = found.take k ++ found[k] :: found.drop (k + 1) := by
      rw [← List.drop_eq_getElem_cons hk, List.take_append_drop]
    have h := occursOnce_inPlace_iff hcode hpercent hsplit
    rwa [List.length_take_of_le (Nat.le_of_lt hk)] at h
  rw [List.pairwise_iff_getElem]
  constructor
  · intro honce i j hi hj hij
    refine (hk i hi).mp (honce i _ (List.getElem?_eq_getElem hi)) found[j] ?_
    rw [List.mem_drop_iff_getElem]
    exact ⟨j - (i + 1), by omega, by congr 1; omega⟩
  · intro hpairs k m hm
    obtain ⟨hlt, rfl⟩ := List.getElem?_eq_some_iff.mp hm
    refine (hk k hlt).mpr fun m' hm' ↦ ?_
    obtain ⟨j, hj, rfl⟩ := List.mem_drop_iff_getElem.mp hm'
    exact hpairs k (k + 1 + j) hlt (by omega) (by omega)

/-- The second definition also stands within the first, which is replaced before. -/
theorem mainBody_eq_inPlace_iff_within :
    let code : Text := "%macro c; %macro a; %mend a; %mend c; run; %macro a; %mend a;"
    let found := pattern.findAll code
    (¬ marker <:+: code ∧ ¬ marker <:+: ("f" : Text) ∧ '%' ∉ ("f" : Text)) ∧
      inPlace code "f" found.length = "/* MACRO_0_c_f */ run; /* MACRO_1_a_f */" ∧
      (∀ k m, found[k]? = some m → OccursOnce m.text (inPlace code "f" k)) ∧
      (found.Pairwise fun m m' ↦ ∀ x y, code = x ++ (m.text ++ y) →
        ¬ (m'.start ≤ x.length ∧ x.length < m'.stop)) ∧
      ∀ m ∈ all code "f", OccursOnce m.placeholder (inPlace code "f" found.length) := by
  intro code found
  have hcode : ¬ marker <:+: code := by decide +kernel
  have hfile : ¬ marker <:+: ("f" : Text) := by decide
  have hpercent : '%' ∉ ("f" : Text) := by decide
  have hbody : mainBody code (all code "f") = inPlace code "f" found.length := by decide +kernel
  obtain ⟨honce, hwithin, hplaceholders, -⟩ := mainBody_eq_inPlace_iff code "f" hcode hfile
  exact ⟨⟨hcode, hfile, hpercent⟩, by decide +kernel, honce.mp hbody, (hwithin hpercent).mp hbody,
    hplaceholders⟩

/-- Of two equal definitions both are replaced by the placeholder of the first. -/
theorem exists_mainBody_ne_inPlace :
    ∃ code file : Text, ¬ marker <:+: code ∧ ¬ marker <:+: file ∧
      mainBody code (all code file) ≠ inPlace code file (pattern.findAll code).length ∧
      ∃ m ∈ all code file, ¬ m.placeholder <:+: mainBody code (all code file) := by
  refine ⟨"%macro a; %mend a; %macro a; %mend a;", "f", by decide +kernel, by decide +kernel,
    by decide +kernel, ⟨"a", "%macro a; %mend a;", "/* MACRO_1_a_f */", 1⟩, by decide +kernel,
    by decide +kernel⟩

end MacroDefinition

end SasMigration
