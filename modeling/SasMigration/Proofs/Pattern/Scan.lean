import SasMigration.Proofs.Pattern.Search
import SasMigration.Proofs.Text.Letter

namespace SasMigration

namespace Cursor

variable {s t : Cursor} {number other : Nat}

theorem group_advance (s : Cursor) (n : Nat) : (s.advance n).group number = s.group number := rfl

theorem group_record {v : Text} (h : s.Takes v t) : (s.record number t).group number = some v := by
  simp [group, record, Capture.text, h.take_eq]

theorem group_record_of_ne (h : other ≠ number) (s t : Cursor) :
    (s.record other t).group number = t.group number := by
  simp [group, record, h]

end Cursor

namespace Pattern

variable {p q : Pattern} {s t : Cursor} {m m' : Match} {size index : Nat} {nonEmpty : Bool}
  {before after : List Char} {u v w : Text}

theorem matchAt_false (p : Pattern) (s : Cursor) :
    p.matchAt false s = (p.ends s).head?.map fun e ↦
      { start := s.index, text := s.after.take (e.index - s.index), groups := e.groups } := by
  rw [matchAt, run_eq]
  simp only [Bool.false_eq_true, false_and, if_false]
  rw [findSome?_some]

theorem exists_matchAt (h : t ∈ p.ends s) : ∃ m, p.matchAt false s = some m := by
  rw [matchAt_false]
  cases hends : p.ends s with
  | nil => simp [hends] at h
  | cons e es => exact ⟨_, rfl⟩

theorem MatchedFrom.le_start (h : p.MatchedFrom size before index after m) : index ≤ m.start := by
  obtain ⟨skipped, rest, nonEmpty, -, hm⟩ := h
  obtain ⟨e, -, v, -, rfl⟩ := matchAt_eq_some hm
  exact Nat.le_add_right _ _

theorem le_start_of_mem_findFrom (h : m ∈ p.findFrom size nonEmpty before index after) :
    index ≤ m.start := (matchedFrom_of_mem_findFrom h).le_start

theorem pairwise_findFrom (p : Pattern) (size : Nat) (nonEmpty : Bool) (before : List Char)
    (index : Nat) (after : List Char) :
    (p.findFrom size nonEmpty before index after).Pairwise fun m m' ↦ m.stop ≤ m'.start := by
  fun_induction findFrom p size nonEmpty before index after with
  | case1 => exact .nil
  | case2 => exact List.pairwise_singleton _ _
  | case3 nonEmpty before index after m hm used hused hne ih =>
    refine List.pairwise_cons.mpr ⟨fun m' hm' ↦ ?_, ih⟩
    have hle := le_start_of_mem_findFrom hm'
    omega
  | case4 => exact List.pairwise_singleton _ _
  | case5 nonEmpty before index m used hused c rest hm ih =>
    refine List.pairwise_cons.mpr ⟨fun m' hm' ↦ ?_, ih⟩
    have hle := le_start_of_mem_findFrom hm'
    omega

theorem pairwise_findAll (p : Pattern) (t : Text) :
    (p.findAll t).Pairwise fun m m' ↦ m.stop ≤ m'.start := pairwise_findFrom ..

theorem stop_le_of_start_lt {t : Text} (hm : m ∈ p.findAll t) (hm' : m' ∈ p.findAll t)
    (h : m.start < m'.start) : m.stop ≤ m'.start := by
  obtain ⟨first, last, hsplit⟩ := List.append_of_mem hm'
  have hpairs := pairwise_findAll p t
  rw [hsplit, List.pairwise_append, List.pairwise_cons] at hpairs
  obtain ⟨-, ⟨hlast, -⟩, hfirst⟩ := hpairs
  rw [hsplit, List.mem_append, List.mem_cons] at hm
  rcases hm with hm | rfl | hm
  · exact hfirst m hm m' List.mem_cons_self
  · omega
  · have hle := hlast m hm
    have hstop : m'.start ≤ m'.stop := Nat.le_add_right _ _
    omega

/-- Every way through the pattern takes a character. -/
def Consumes (p : Pattern) : Prop := ∀ s, ∀ t ∈ p.ends s, s.index < t.index

namespace Consumes

variable {skipped rest : List Char}

theorem matchAt_eq (hp : p.Consumes) (nonEmpty : Bool) (s : Cursor) :
    p.matchAt nonEmpty s = p.matchAt false s := by
  rw [matchAt, matchAt, run_eq, run_eq]
  cases hends : p.ends s with
  | nil => rfl
  | cons e es =>
    have hlt := hp s e (hends ▸ List.mem_cons_self)
    have hne : e.index ≠ s.index := Nat.ne_of_gt hlt
    simp [hne]

theorem start_lt_stop (hp : p.Consumes) (h : p.MatchedFrom size before index after m) :
    m.start < m.stop := by
  obtain ⟨skipped, rest, nonEmpty, -, hm⟩ := h
  obtain ⟨e, he, v, hv, rfl⟩ := matchAt_eq_some hm
  have hlt := hp _ e he
  rw [hv.index_eq] at hlt
  exact hlt

theorem exists_searchFrom (hp : p.Consumes) (nonEmpty : Bool) (h : p.matchAt false
      ⟨size, index + skipped.length, skipped.reverse ++ before, rest, []⟩ = some m) :
    ∃ m', p.searchFrom size nonEmpty before index (skipped ++ rest) = some m' ∧
      m'.start ≤ index + skipped.length ∧ (m'.start = index + skipped.length → m' = m) := by
  induction skipped generalizing nonEmpty before index with
  | nil =>
    have hhere : p.matchAt false ⟨size, index, before, rest, []⟩ = some m := h
    obtain ⟨e, -, v, -, rfl⟩ := matchAt_eq_some h
    refine ⟨_, ?_, Nat.le_refl _, fun _ ↦ rfl⟩
    rw [List.nil_append, searchFrom.eq_def, hp.matchAt_eq nonEmpty, hhere]
  | cons c skipped ih =>
    have hnext : p.matchAt false
        ⟨size, index + 1 + skipped.length, skipped.reverse ++ c :: before, rest, []⟩ = some m := by
      rw [← h]
      simp [Nat.add_assoc, Nat.add_comm 1]
    rw [List.cons_append, searchFrom.eq_def]
    cases hm : p.matchAt nonEmpty ⟨size, index, before, c :: (skipped ++ rest), []⟩ with
    | some m' =>
      obtain ⟨e, -, v, -, rfl⟩ := matchAt_eq_some hm
      refine ⟨_, rfl, Nat.le_add_right _ _, fun hstart ↦ ?_⟩
      simp only [List.length_cons] at hstart
      omega
    | none =>
      obtain ⟨m', hm', hle, heq⟩ := ih false hnext
      refine ⟨m', hm', ?_, fun hstart ↦ heq ?_⟩
      · simp only [List.length_cons]
        omega
      · simp only [List.length_cons] at hstart
        omega

theorem findFrom_eq (hp : p.Consumes)
    (hm : p.searchFrom size nonEmpty before index after = some m) :
    ∃ taken rest, after = taken ++ rest ∧ m.stop = index + taken.length ∧ taken ≠ [] ∧
      p.findFrom size nonEmpty before index after =
        m :: p.findFrom size false (taken.reverse ++ before) (index + taken.length) rest := by
  have hmatched := matchedFrom_of_searchFrom hm
  have hstart := hmatched.le_start
  have hlt := hp.start_lt_stop hmatched
  have hstop := hmatched.stop_le
  have htext : m.text.isEmpty = false := by
    rw [List.isEmpty_eq_false_iff, ← List.length_pos_iff]
    simp only [Match.stop] at hlt
    omega
  obtain ⟨used, hused⟩ : ∃ used, m.stop - index = used + 1 := ⟨m.stop - index - 1, by omega⟩
  cases after with
  | nil =>
    simp only [List.length_nil] at hstop
    omega
  | cons c after =>
    have hlength : ((c :: after).take (used + 1)).length = used + 1 := by
      rw [List.length_take]
      omega
    refine ⟨(c :: after).take (used + 1), after.drop used, ?_, ?_, ?_, ?_⟩
    · rw [List.take_succ_cons, List.cons_append, List.take_append_drop]
    · omega
    · simp
    · rw [findFrom.eq_def, hm]
      simp only [hused, htext, hlength, Nat.add_one_ne_zero, if_false, Nat.add_sub_cancel]

theorem exists_mem_findFrom (hp : p.Consumes) (nonEmpty : Bool) (h : p.matchAt false
      ⟨size, index + skipped.length, skipped.reverse ++ before, rest, []⟩ = some m) :
    ∃ m' ∈ p.findFrom size nonEmpty before index (skipped ++ rest),
      m'.start ≤ index + skipped.length ∧ index + skipped.length < m'.stop ∧
      (m'.start = index + skipped.length → m' = m) := by
  induction hn : skipped.length using Nat.strongRecOn
    generalizing skipped nonEmpty before index with
  | _ n ih =>
    subst hn
    obtain ⟨m₁, hm₁, hle, heq⟩ := hp.exists_searchFrom nonEmpty h
    obtain ⟨taken, rest', htaken, hstop, hne, hfind⟩ := hp.findFrom_eq hm₁
    rw [hfind]
    by_cases hin : index + skipped.length < m₁.stop
    · exact ⟨m₁, List.mem_cons_self, hle, hin, heq⟩
    · -- the place lies after the first match, so it is met again from the end of that match on
      have hlength : taken.length ≤ skipped.length := by omega
      obtain ⟨more, rfl⟩ : taken <+: skipped :=
        List.prefix_of_prefix_length_le ⟨rest', htaken.symm⟩ (List.prefix_append _ _) hlength
      obtain rfl : rest' = more ++ rest := by
        rw [List.append_assoc] at htaken
        exact (List.append_cancel_left htaken).symm
      have hpos := List.length_pos_iff.mpr hne
      rw [List.length_append, ← Nat.add_assoc, List.reverse_append, List.append_assoc] at h
      obtain ⟨m', hm', hle', hlt', heq'⟩ := ih more.length (by rw [List.length_append]; omega)
        false h rfl
      rw [List.length_append, ← Nat.add_assoc]
      exact ⟨m', List.mem_cons_of_mem _ hm', hle', hlt', heq'⟩

end Consumes

theorem between_eq (u v : Text) :
    (⟨(u ++ v).length, 0 + u.length, u.reverse ++ [], v, []⟩ : Cursor) = .between u v := by
  rw [Cursor.between, List.length_append, Nat.zero_add, List.append_nil]

/-- A place of a text at which the pattern matches begins a match that is found, or lies within one
that begins before. -/
theorem Consumes.exists_mem_findAll (hp : p.Consumes)
    (h : p.matchAt false (.between u v) = some m) :
    ∃ m' ∈ p.findAll (u ++ v), m'.start ≤ u.length ∧ u.length < m'.stop ∧
      (m'.start = u.length → m' = m) := by
  rw [← between_eq] at h
  simpa only [Nat.zero_add, findAll] using hp.exists_mem_findFrom false h

/-- The pattern can take the text wherever it stands. -/
def Accepts (p : Pattern) (v : Text) : Prop :=
  ∀ s rest, s.after = v ++ rest → ∃ t ∈ p.ends s, s.Takes v t

theorem le_spanMost {pass : Char → Bool} (hv : ∀ c ∈ v, pass c) (rest : Text) :
    v.length ≤ spanMost pass none (v ++ rest) := by
  induction v with
  | nil => exact Nat.zero_le _
  | cons c v ih =>
    obtain ⟨hc, hv⟩ := List.forall_mem_cons.mp hv
    rw [List.cons_append, spanMost, if_pos ⟨by simp, hc⟩, List.length_cons]
    exact Nat.succ_le_succ (ih hv)

theorem accepts_span {preference : Preference} {low : Nat} {set : CharSet}
    (hsizes : ∀ most, v.length ≤ most → v.length ∈ spanSizes preference low most)
    (hv : ∀ c ∈ v, set.holds c) : (span preference low none set).Accepts v := by
  intro s rest hs
  have hmost := le_spanMost hv rest
  rw [← hs] at hmost
  refine ⟨s.advance v.length, List.mem_map_of_mem (hsizes _ hmost), ?_⟩
  have htakes := Cursor.Takes.advance (s := s) (n := v.length) (by simp [hs])
  rwa [hs, List.take_left] at htakes

theorem accepts_longest {low : Nat} {set : CharSet} (hlow : low ≤ v.length)
    (hv : ∀ c ∈ v, set.holds c) : (span .longest low none set).Accepts v := by
  refine accepts_span (fun most hmost ↦ ?_) hv
  simp only [spanSizes, List.mem_reverse, List.mem_range'_1]
  omega

theorem accepts_anything (v : Text) : anything.Accepts v := by
  refine accepts_span (fun most hmost ↦ ?_) fun _ _ ↦ rfl
  simp only [spanSizes, List.mem_range'_1]
  omega

theorem accepts_letters {letterCase : LetterCase}
    (h : List.Forall₂ (fun a b ↦ letterCase.same a b) w v) :
    (inOrder (w.map fun c ↦ one (.letter c letterCase))).Accepts v := by
  intro s rest hs
  have hlength := h.length_eq
  have htakes := Cursor.Takes.advance (s := s) (n := w.length) (by simp [hs, hlength])
  have htake : s.after.take w.length = v := by rw [hs, hlength, List.take_left]
  rw [htake] at htakes
  exact ⟨_, mem_ends_letters.mpr ⟨rfl, htake.symm ▸ h⟩, htakes⟩

theorem Accepts.group (h : p.Accepts v) (number : Nat) : (Pattern.group number p).Accepts v := by
  intro s rest hs
  obtain ⟨t, ht, htakes⟩ := h s rest hs
  exact ⟨s.record number t, List.mem_map_of_mem ht, htakes.record number⟩

theorem Accepts.inOrder_cons {ps : List Pattern} (hv : p.Accepts v) (hw : (inOrder ps).Accepts w) :
    (inOrder (p :: ps)).Accepts (v ++ w) := by
  intro s rest hs
  rw [List.append_assoc] at hs
  obtain ⟨t, ht, htakes⟩ := hv s (w ++ rest) hs
  have hafter : t.after = w ++ rest := by
    have := htakes.after_eq
    rw [hs] at this
    exact (List.append_cancel_left this).symm
  obtain ⟨e, he, htakes'⟩ := hw t rest hafter
  exact ⟨e, mem_ends_inOrder_cons.mpr ⟨t, ht, he⟩, htakes.trans htakes'⟩

theorem exists_of_mem_ends_letters {letterCase : LetterCase} {w : Text}
    (h : t ∈ (inOrder (w.map fun c ↦ one (.letter c letterCase))).ends s) :
    ∃ v, s.Takes v t ∧ List.Forall₂ (fun a b ↦ letterCase.same a b) w v ∧ t.groups = s.groups := by
  obtain ⟨rfl, hsame⟩ := mem_ends_letters.mp h
  have hlength : w.length ≤ s.after.length := by
    have := hsame.length_eq
    rw [List.length_take] at this
    omega
  exact ⟨_, .advance hlength, hsame, rfl⟩

theorem takes_of_mem_ends_literal {w : Text} (h : t ∈ (literal w).ends s) :
    s.Takes w t ∧ t.groups = s.groups := by
  obtain ⟨v, hv, hsame, hgroups⟩ := exists_of_mem_ends_letters h
  have heq : List.Forall₂ Eq w v := hsame.imp fun _ _ hc ↦ eq_of_beq hc
  rw [List.forall₂_eq_eq_eq] at heq
  exact ⟨heq ▸ hv, hgroups⟩

theorem exists_of_mem_ends_blanks1 (h : t ∈ blanks1.ends s) :
    ∃ v, s.Takes v t ∧ Text.IsGap v ∧ t.groups = s.groups := by
  obtain ⟨n, hlow, hn, rfl, hpass⟩ := mem_ends_span h
  refine ⟨_, .advance hn, ⟨?_, fun c hc ↦ ?_⟩, rfl⟩
  · rw [← List.length_pos_iff, List.length_take]
    omega
  · simpa [CharSet.holds, CharSet.blank, ClassItem.holds, CharKind.holds] using hpass c hc

theorem exists_of_mem_ends_blanks (h : t ∈ blanks.ends s) :
    ∃ v, s.Takes v t ∧ (∀ c ∈ v, Text.isBlank c) ∧ t.groups = s.groups := by
  obtain ⟨n, -, hn, rfl, hpass⟩ := mem_ends_span h
  refine ⟨_, .advance hn, fun c hc ↦ ?_, rfl⟩
  simpa [CharSet.holds, CharSet.blank, ClassItem.holds, CharKind.holds] using hpass c hc

theorem exists_of_mem_ends_word1 (h : t ∈ word1.ends s) :
    ∃ v, s.Takes v t ∧ Text.IsRun v ∧ t.groups = s.groups := by
  obtain ⟨n, hlow, hn, rfl, -⟩ := mem_ends_span h
  refine ⟨_, .advance hn, ⟨?_, isWord_of_mem_word1 h (.advance hn)⟩, rfl⟩
  rw [← List.length_pos_iff, List.length_take]
  omega

theorem accepts_blanks1 {v : Text} (h : Text.IsGap v) : blanks1.Accepts v := by
  refine accepts_longest (List.length_pos_iff.mpr h.ne_nil) fun c hc ↦ ?_
  simpa [CharSet.holds, CharSet.blank, ClassItem.holds, CharKind.holds] using h.blank c hc

theorem accepts_blanks {v : Text} (h : ∀ c ∈ v, Text.isBlank c) : blanks.Accepts v := by
  refine accepts_longest (Nat.zero_le _) fun c hc ↦ ?_
  simpa [CharSet.holds, CharSet.blank, ClassItem.holds, CharKind.holds] using h c hc

theorem accepts_word1 {v : Text} (h : Text.IsRun v) : word1.Accepts v := by
  refine accepts_longest (List.length_pos_iff.mpr h.ne_nil) fun c hc ↦ ?_
  simpa [CharSet.holds, CharSet.word, ClassItem.holds, CharKind.holds] using h.word c hc

theorem Accepts.exists_matchAt (h : p.Accepts v) (u rest : Text) :
    ∃ m, p.matchAt false (.between u (v ++ rest)) = some m := by
  obtain ⟨t, ht, -⟩ := h (.between u (v ++ rest)) rest rfl
  exact Pattern.exists_matchAt ht

theorem consumes_keyword {ps qs : List Pattern} {t : Text} (ht : t ≠ []) :
    (inOrder (ps ++ keyword t :: qs)).Consumes := by
  intro s e he
  obtain ⟨u, hu, he⟩ := mem_ends_inOrder_append.mp he
  obtain ⟨v, hv, he⟩ := mem_ends_inOrder_cons.mp he
  obtain ⟨x, hx⟩ := takes_of_mem_ends hu
  obtain ⟨y, hy, hsame, -⟩ := exists_of_mem_ends_letters hv
  obtain ⟨z, hz⟩ := takes_of_mem_ends he
  have hpos := List.length_pos_iff.mpr ht
  rw [hz.index_eq, hy.index_eq, hx.index_eq, ← hsame.length_eq]
  omega

/-! The way that is preferred -/

variable {e : Cursor} {ps qs : List Pattern}

theorem ends_inOrder_append (ps qs : List Pattern) (s : Cursor) :
    (inOrder (ps ++ qs)).ends s = ((inOrder ps).ends s).flatMap (inOrder qs).ends := by
  induction ps generalizing s with
  | nil => simp [inOrder, ends]
  | cons p ps ih =>
    rw [List.cons_append, ends_inOrder_cons, ends_inOrder_cons, List.flatMap_assoc]
    exact List.flatMap_congr fun t _ ↦ ih t

/-- The preferred way through two patterns goes on from the first way through one of them from which
there is a way through the other. -/
theorem exists_of_head?_ends_append (h : ((inOrder (ps ++ qs)).ends s).head? = some e) :
    ∃ passed t left, (inOrder ps).ends s = passed ++ t :: left ∧
      ((inOrder qs).ends t).head? = some e ∧ ∀ u ∈ passed, (inOrder qs).ends u = [] := by
  rw [ends_inOrder_append, List.head?_flatMap, List.findSome?_eq_some_iff] at h
  obtain ⟨passed, t, left, hsplit, ht, hpassed⟩ := h
  exact ⟨passed, t, left, hsplit, ht, fun u hu ↦ List.head?_eq_none_iff.mp (hpassed u hu)⟩

theorem mem_of_pairwise {α : Type} {r : α → α → Prop} {passed left : List α} {a b : α}
    (h : (passed ++ a :: left).Pairwise r) (hb : b ∈ passed ++ a :: left) (hab : ¬ r a b)
    (hne : b ≠ a) : b ∈ passed := by
  rw [List.mem_append, List.mem_cons] at hb
  rcases hb with hb | rfl | hb
  · exact hb
  · exact absurd rfl hne
  · exact absurd ((List.pairwise_cons.mp (List.pairwise_append.mp h).2.1).1 b hb) hab

theorem pairwise_ends_longest (low : Nat) (high : Option Nat) (set : CharSet) (s : Cursor) :
    ((span .longest low high set).ends s).Pairwise fun t t' ↦ t'.index < t.index := by
  rw [ends, spanSizes, List.pairwise_map, List.pairwise_reverse]
  exact (List.pairwise_lt_range' 1).imp fun h ↦ Nat.add_lt_add_left h s.index

theorem pairwise_ends_shortest (low : Nat) (high : Option Nat) (set : CharSet) (s : Cursor) :
    ((span .shortest low high set).ends s).Pairwise fun t t' ↦ t.index < t'.index := by
  rw [ends, spanSizes, List.pairwise_map]
  exact (List.pairwise_lt_range' 1).imp fun h ↦ Nat.add_lt_add_left h s.index

theorem ends_letters (letterCase : LetterCase) (w : Text) (s : Cursor) :
    (inOrder (w.map fun c ↦ one (.letter c letterCase))).ends s = [] ∨
      (inOrder (w.map fun c ↦ one (.letter c letterCase))).ends s = [s.advance w.length] := by
  induction w generalizing s with
  | nil => exact .inr (by rw [List.length_nil, Cursor.advance_zero]; rfl)
  | cons c w ih =>
    rw [List.map_cons, ends_inOrder_cons, ends]
    cases hs : s.after with
    | nil => exact .inl rfl
    | cons d rest =>
      by_cases hd : (CharSet.letter c letterCase).holds d
      · simp only [hd, if_true, List.flatMap_singleton, Cursor.step_eq_advance hs]
        have h := ih (s.advance 1)
        rwa [Cursor.advance_advance, Nat.add_comm] at h
      · simp [hd]

end Pattern

end SasMigration
