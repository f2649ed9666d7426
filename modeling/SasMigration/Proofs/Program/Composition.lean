import SasMigration.Program.Complexity
import SasMigration.Proofs.Pattern.Places
import SasMigration.Proofs.Text.Lines
import SasMigration.Proofs.Text.Occurrence

namespace SasMigration

open Pattern Text
open Anchor (isWordAt)

section Cut

variable {P : Text → Prop} {a b x y : Text} {i : Nat}

theorem isWordAt_append_newline (x y : Text) :
    isWordAt false (x ++ '\n' :: y) = isWordAt false x := by
  cases x with
  | nil =>
    change CharKind.word.holds false '\n' = false
    decide
  | cons c x => rfl

/-- A text of a kind stands at a place of the first part and goes on over the line feed. -/
def StraddlesAt (P : Text → Prop) (a b : Text) (i : Nat) : Prop :=
  ∃ u x y r, a = u ++ x ∧ b = y ++ r ∧ u.length = i ∧ P (x ++ '\n' :: y) ∧
    isWordAt false u.reverse = false ∧ isWordAt false r = false

theorem standsAt_after (i : Nat) :
    StandsAt P (a ++ '\n' :: b) (a.length + 1 + i) ↔ StandsAt P b i := by
  have hedge (u : Text) : isWordAt false (a ++ '\n' :: u).reverse = isWordAt false u.reverse := by
    rw [List.reverse_append, List.reverse_cons, List.append_assoc]
    exact isWordAt_append_newline ..
  constructor
  · rintro ⟨u, v, r, ht, hu, hv, hbefore, hafter⟩
    have hcut : a ++ ['\n'] ++ b = u ++ (v ++ r) := by simpa using ht
    obtain ⟨u', rfl⟩ : a ++ ['\n'] <+: u := List.prefix_of_prefix_length_le
      (List.prefix_append _ b) ⟨_, hcut.symm⟩ (by simp only [hu, List.length_append]; simp)
    have hb : b = u' ++ (v ++ r) := List.append_cancel_left (hcut.trans (List.append_assoc ..))
    rw [List.append_assoc, List.singleton_append, hedge] at hbefore
    refine ⟨u', v, r, hb, ?_, hv, hbefore, hafter⟩
    simp only [List.length_append, List.length_singleton] at hu
    omega
  · rintro ⟨u, v, r, rfl, rfl, hv, hbefore, hafter⟩
    refine ⟨a ++ '\n' :: u, v, r, by simp, ?_, hv, (hedge u).trans hbefore, hafter⟩
    simp only [List.length_append, List.length_cons]
    omega

theorem standsAt_before (hi : i ≤ a.length) :
    StandsAt P (a ++ '\n' :: b) i ↔ StandsAt P a i ∨ StraddlesAt P a b i := by
  constructor
  · rintro ⟨u, v, r, ht, rfl, hv, hbefore, hafter⟩
    obtain ⟨x, rfl⟩ : u <+: a := List.prefix_of_prefix_length_le ⟨_, ht.symm⟩
      (List.prefix_append a _) hi
    rw [List.append_assoc, List.append_cancel_left_eq] at ht
    -- what stands there ends before the line feed or goes on over it
    rcases List.append_eq_append_iff.mp ht with ⟨z, rfl, hz⟩ | ⟨z, rfl, rfl⟩
    · cases z with
      | nil => exact .inl ⟨u, x, [], by simp, rfl, by simpa using hv, hbefore, rfl⟩
      | cons c z =>
        obtain ⟨rfl, rfl⟩ := List.cons.inj hz
        exact .inr ⟨u, x, z, r, rfl, rfl, rfl, hv, hbefore, hafter⟩
    · rw [isWordAt_append_newline] at hafter
      exact .inl ⟨u, v, z, rfl, rfl, hv, hbefore, hafter⟩
  · rintro (⟨u, v, r, rfl, hu, hv, hbefore, hafter⟩ |
      ⟨u, x, y, r, rfl, rfl, hu, hv, hbefore, hafter⟩)
    · exact ⟨u, v, r ++ '\n' :: b, by simp, hu, hv, hbefore,
        (isWordAt_append_newline r b).trans hafter⟩
    · exact ⟨u, x ++ '\n' :: y, r, by simp, hu, hv, hbefore, hafter⟩

open Classical in
theorem count_standsAt_append (P : Text → Prop) (a b : Text) :
    Nat.count (StandsAt P (a ++ '\n' :: b)) ((a ++ '\n' :: b).length + 1) =
      Nat.count (fun i ↦ StandsAt P a i ∨ StraddlesAt P a b i) (a.length + 1) +
        Nat.count (StandsAt P b) (b.length + 1) := by
  have hlength : (a ++ '\n' :: b).length + 1 = a.length + 1 + (b.length + 1) := by
    simp only [List.length_append, List.length_cons]
    omega
  rw [hlength, Nat.count_add]
  congr 1
  · exact Nat.le_antisymm
      (Nat.count_mono_left fun i hi ↦ (standsAt_before (Nat.le_of_lt_succ hi)).mp)
      (Nat.count_mono_left fun i hi ↦ (standsAt_before (Nat.le_of_lt_succ hi)).mpr)
  · exact Nat.le_antisymm (Nat.count_mono_left fun i _ ↦ (standsAt_after i).mp)
      (Nat.count_mono_left fun i _ ↦ (standsAt_after i).mpr)

open Classical in
theorem count_or {p q : Nat → Prop} (h : ∀ i, p i → ¬ q i) (n : Nat) :
    Nat.count (fun i ↦ p i ∨ q i) n = Nat.count p n + Nat.count q n := by
  induction n with
  | zero => rfl
  | succ n ih =>
    rw [Nat.count_succ, Nat.count_succ, Nat.count_succ, ih]
    by_cases hp : p n
    · simp only [hp, h n hp, true_or, if_true, if_false]
      omega
    · simp only [hp, false_or, if_false]
      omega

open Classical in
theorem count_of_unique {q : Nat → Prop} (h : ∀ i j, q i → q j → i = j) {i n : Nat} (hq : q i)
    (hi : i < n) : Nat.count q n = 1 := by
  rw [Nat.count_eq_card_filter_range, Finset.card_eq_one]
  refine ⟨i, Finset.eq_singleton_iff_unique_mem.mpr ⟨?_, fun j hj ↦ ?_⟩⟩
  · exact Finset.mem_filter.mpr ⟨Finset.mem_range.mpr hi, hq⟩
  · exact h j i (Finset.mem_filter.mp hj).2 hq

end Cut

/-! Whole words -/

/-- A word in any letter case, as a whole, where `u` stands before it and `r` after it. -/
structure IsWholeWord (w u k r : Text) : Prop where
  same : List.Forall₂ (fun a c ↦ sameLetter a c) w k
  before : isWordAt false u.reverse = false
  after : isWordAt false r = false

instance (w u k r : Text) : Decidable (IsWholeWord w u k r) :=
  decidable_of_iff (List.Forall₂ (fun a c ↦ sameLetter a c) w k ∧
      isWordAt false u.reverse = false ∧ isWordAt false r = false)
    ⟨fun h ↦ ⟨h.1, h.2.1, h.2.2⟩, fun h ↦ ⟨h.same, h.before, h.after⟩⟩

/-- The last word of a text is `w`, with blanks after it or none. -/
def EndsWithWord (w t : Text) : Prop :=
  ∃ u k gap, t = u ++ (k ++ gap) ∧ IsWholeWord w u k gap ∧ ∀ c ∈ gap, isBlank c

/-- The first word of a text is `w`, with blanks before it or none. -/
def BeginsWithWord (w t : Text) : Prop :=
  ∃ gap k r, t = gap ++ (k ++ r) ∧ IsWholeWord w gap k r ∧ ∀ c ∈ gap, isBlank c

def WholeWordAt (w t : Text) (i : Nat) : Prop :=
  IsWholeWord w (t.take i) ((t.drop i).take w.length) ((t.drop i).drop w.length)

instance (w t : Text) (i : Nat) : Decidable (WholeWordAt w t i) :=
  inferInstanceAs (Decidable (IsWholeWord ..))

theorem exists_isWholeWord_iff {w t : Text} {Q : Text → Text → Prop} :
    (∃ u k r, t = u ++ (k ++ r) ∧ IsWholeWord w u k r ∧ Q u r) ↔
      ∃ i < t.length + 1, WholeWordAt w t i ∧ Q (t.take i) ((t.drop i).drop w.length) := by
  constructor
  · rintro ⟨u, k, r, rfl, h, hQ⟩
    have hlength : w.length = k.length := h.same.length_eq
    refine ⟨u.length, by simp only [List.length_append]; omega, ?_⟩
    rw [WholeWordAt, List.take_left, List.drop_left, hlength, List.take_left, List.drop_left]
    exact ⟨h, hQ⟩
  · rintro ⟨i, -, h, hQ⟩
    exact ⟨_, _, _, by rw [List.take_append_drop, List.take_append_drop], h, hQ⟩

instance (w t : Text) : Decidable (EndsWithWord w t) :=
  decidable_of_iff (((List.range (t.length + 1)).any fun i ↦
      decide (WholeWordAt w t i) && ((t.drop i).drop w.length).all isBlank) = true)
    (by rw [EndsWithWord, exists_isWholeWord_iff]; simp)

instance (w t : Text) : Decidable (BeginsWithWord w t) :=
  decidable_of_iff (((List.range (t.length + 1)).any fun i ↦
      decide (WholeWordAt w t i) && (t.take i).all isBlank) = true)
    (by rw [BeginsWithWord, exists_isWholeWord_iff]; simp)

structure IsLetters (w : Text) : Prop where
  ne_nil : w ≠ []
  letters : (w.all fun c ↦ asciiLetters.contains c) = true

theorem IsLetters.mem_asciiLetters {w : Text} (h : IsLetters w) : ∀ c ∈ w, c ∈ asciiLetters :=
  fun c hc ↦ List.contains_iff_mem.mp (List.all_eq_true.mp h.letters c hc)

section Words

variable {w k u r gap t v : Text}

theorem isWordAt_of_isRun (h : IsRun v) : isWordAt false v ∧ isWordAt false v.reverse := by
  have hhead {x : Text} (hx : x ≠ []) (hword : ∀ c ∈ x, isWord c) : isWordAt false x := by
    obtain ⟨c, x, rfl⟩ := List.exists_cons_of_ne_nil hx
    exact hword c List.mem_cons_self
  exact ⟨hhead h.ne_nil h.word, hhead (by simpa using h.ne_nil) (by simpa using h.word)⟩

theorem isWordAt_of_blank (h : ∀ c ∈ gap, isBlank c) :
    isWordAt false gap = false ∧ isWordAt false gap.reverse = false := by
  have hhead {x : Text} (hx : ∀ c ∈ x, isBlank c) : isWordAt false x = false := by
    cases x with
    | nil => rfl
    | cons c x =>
      have hgap : IsGap (c :: x) := ⟨by simp, hx⟩
      exact hgap.isWord_head [] c rfl
  exact ⟨hhead h, hhead (by simpa using h)⟩

theorem IsLetters.isRun (hw : IsLetters w) (h : List.Forall₂ (fun a c ↦ sameLetter a c) w k) :
    IsRun k := by
  refine ⟨?_, isWord_of_keyword hw.mem_asciiLetters h⟩
  rintro rfl
  exact hw.ne_nil (List.forall₂_nil_right_iff.mp h)

end Words

namespace Complexity

variable {w k u r gap t v a b : Text} {i : Nat}

theorem count_wholeWord_append (hw : IsLetters w) (a b : Text) :
    count (wholeWord w) (a ++ '\n' :: b) = count (wholeWord w) a + count (wholeWord w) b := by
  classical
  have hrun {v : Text} (hv : (inOrder [keyword w]).Spells v) : IsRun v :=
    hw.isRun (spells_keyword.mp hv)
  have hworded : Worded (inOrder [keyword w]).Spells := fun v hv ↦ isWordAt_of_isRun (hrun hv)
  have hcount (t : Text) : count (wholeWord w) t =
      Nat.count (StandsAt (inOrder [keyword w]).Spells t) (t.length + 1) := by
    have hregular : (inOrder [keyword w]).isRegular := isRegular_keyword w
    refine length_findAll_edged hregular hworded ?_ t
    intro x y r v r' hxy hx _ hedge _ _
    have hword : IsRun x := ⟨hx, fun c hc ↦ (hrun hxy).word c (List.mem_append_left y hc)⟩
    exact Bool.false_ne_true (hedge.symm.trans (isWordAt_of_isRun hword).2)
  have hstraddles (i : Nat) : ¬ StraddlesAt (inOrder [keyword w]).Spells a b i := by
    rintro ⟨u, x, y, r, -, -, -, hv, -⟩
    exact absurd ((hrun hv).word '\n' (by simp)) (by decide)
  rw [hcount, hcount, hcount, count_standsAt_append]
  simp only [hstraddles, or_false]

/-! Loops with a condition -/

theorem spells_loop : (inOrder [keyword "do", blanks1, keyword w]).Spells v ↔
    ∃ k gap k', v = k ++ (gap ++ k') ∧ List.Forall₂ (fun a c ↦ sameLetter a c) "do".toList k ∧
      IsGap gap ∧ List.Forall₂ (fun a c ↦ sameLetter a c) w k' := by
  rw [spells_inOrder_cons_cons]
  simp only [spells_inOrder_cons_cons, spells_inOrder_singleton, spells_keyword, spells_blanks1]
  constructor
  · rintro ⟨k, _, hk, ⟨gap, k', hgap, hk', rfl⟩, rfl⟩
    exact ⟨k, gap, k', rfl, hk, hgap, hk'⟩
  · rintro ⟨k, gap, k', rfl, hk, hgap, hk'⟩
    exact ⟨k, _, hk, ⟨gap, k', hgap, hk', rfl⟩, rfl⟩

theorem isLetters_do : IsLetters "do" := ⟨by decide, by decide⟩

theorem worded_loop (hw : IsLetters w) :
    Worded (inOrder [keyword "do", blanks1, keyword w]).Spells := by
  intro v hv
  obtain ⟨k, gap, k', rfl, hk, -, hk'⟩ := spells_loop.mp hv
  refine ⟨isWordAt_append (isWordAt_of_isRun (isLetters_do.isRun hk)).1 _, ?_⟩
  rw [← List.append_assoc, List.reverse_append]
  exact isWordAt_append (isWordAt_of_isRun (hw.isRun hk')).2 _

theorem loop_apart (hw : IsLetters w) (hd : w.head? ≠ some 'd') {x y r v r' : Text}
    (hxy : (inOrder [keyword "do", blanks1, keyword w]).Spells (x ++ y)) (hx : x ≠ []) (hy : y ≠ [])
    (hedge : isWordAt false x.reverse = false)
    (hv : (inOrder [keyword "do", blanks1, keyword w]).Spells v) : y ++ r ≠ v ++ r' := by
  -- within the blanks there is no word, and the condition is another word
  intro h
  obtain ⟨k, gap, k', hk_eq, hk, hgap, hk'⟩ := spells_loop.mp hxy
  obtain ⟨c, y, rfl⟩ := List.exists_cons_of_ne_nil hy
  have hc : sameLetter 'd' c := by
    obtain ⟨k₂, gap₂, k₂', rfl, hk₂, -⟩ := spells_loop.mp hv
    obtain ⟨d, k₂, hd₂, -, rfl⟩ := List.forall₂_cons_left_iff.mp hk₂
    rw [(List.cons.inj h).1]
    exact hd₂
  have hword : isWord c := isWord_of_sameLetter (by decide) hc
  -- no part of a word stands before the place, so it is not within the first word
  have hrun {z : Text} (hz : z <:+ x) (hne : z ≠ []) (hall : ∀ c ∈ z, isWord c) : False := by
    obtain ⟨z', rfl⟩ := hz
    rw [List.reverse_append] at hedge
    have := isWordAt_append (isWordAt_of_isRun ⟨hne, hall⟩).2 z'.reverse
    exact Bool.false_ne_true (hedge.symm.trans this)
  rcases List.append_eq_append_iff.mp hk_eq with ⟨z, rfl, -⟩ | ⟨z, rfl, hz⟩
  · exact hrun List.suffix_rfl hx fun c hc ↦
      (isLetters_do.isRun hk).word c (List.mem_append_left z hc)
  -- nor within the condition, and a blank begins no word
  have hfirst : k' = c :: y := by
    rcases List.append_eq_append_iff.mp hz with ⟨g, rfl, hg⟩ | ⟨g, rfl, hg⟩
    · by_cases hne : g = []
      · simpa [hne] using hg
      · refine (hrun ⟨k ++ gap, by simp⟩ hne fun d hd ↦ (hw.isRun hk').word d ?_).elim
        rw [hg]
        exact List.mem_append_left _ hd
    · cases g with
      | nil => exact hg.symm
      | cons d g =>
        obtain ⟨rfl, -⟩ := List.cons.inj hg
        have hblank := hgap.blank c (by simp)
        rw [isBlank_of_isWord hword] at hblank
        cases hblank
  subst hfirst
  obtain ⟨e, w, he, -, rfl⟩ := List.forall₂_cons_right_iff.mp hk'
  refine hd (congrArg some ?_)
  exact eq_of_sameLetter (hw.mem_asciiLetters e List.mem_cons_self) (by decide) he hc

theorem straddlesAt_loop (hw : IsLetters w) :
    StraddlesAt (inOrder [keyword "do", blanks1, keyword w]).Spells a b i ↔
      (∃ u k gap, a = u ++ (k ++ gap) ∧ u.length = i ∧ IsWholeWord "do" u k gap ∧
        ∀ c ∈ gap, isBlank c) ∧ BeginsWithWord w b := by
  have hnewline {z : Text} (hz : IsRun z) : '\n' ∉ z := fun h ↦ absurd (hz.word _ h) (by decide)
  constructor
  · rintro ⟨u, x, y, r, rfl, rfl, rfl, hv, hbefore, hafter⟩
    obtain ⟨k, gap, k', heq, hk, hgap, hk'⟩ := spells_loop.mp hv
    obtain ⟨g, rfl, hg⟩ := exists_of_append_cons_eq (hnewline (isLetters_do.isRun hk)) heq
    obtain ⟨g', rfl, rfl⟩ : ∃ g', gap = g ++ '\n' :: g' ∧ y = g' ++ k' := by
      rcases List.append_eq_append_iff.mp hg with ⟨z, rfl, hz⟩ | ⟨z, rfl, hz⟩
      · exact absurd (by simp [hz]) (hnewline (hw.isRun hk'))
      · cases z with
        | nil =>
          obtain rfl : '\n' :: y = k' := hz
          exact absurd List.mem_cons_self (hnewline (hw.isRun hk'))
        | cons c z =>
          obtain ⟨rfl, rfl⟩ := List.cons.inj hz
          exact ⟨z, rfl, rfl⟩
    have hg : ∀ c ∈ g, isBlank c := fun c hc ↦ hgap.blank c (by simp [hc])
    have hg' : ∀ c ∈ g', isBlank c := fun c hc ↦ hgap.blank c (by simp [hc])
    exact ⟨⟨u, k, g, rfl, rfl, ⟨hk, hbefore, (isWordAt_of_blank hg).1⟩, hg⟩, g', k', r, by simp,
      ⟨hk', (isWordAt_of_blank hg').2, hafter⟩, hg'⟩
  · rintro ⟨⟨u, k, g, rfl, rfl, hdo, hg⟩, g', k', r, rfl, hcondition, hg'⟩
    refine ⟨u, k ++ g, g' ++ k', r, rfl, by simp, rfl, spells_loop.mpr
      ⟨k, g ++ '\n' :: g', k', by simp, hdo.same, ⟨by simp, fun c hc ↦ ?_⟩, hcondition.same⟩,
      hdo.before, hcondition.after⟩
    rcases List.mem_append.mp hc with hc | hc
    · exact hg c hc
    · rcases List.mem_cons.mp hc with rfl | hc
      · decide
      · exact hg' c hc

theorem length_eq_of_last_word (hw : IsLetters w) {u u' k k' gap gap' : Text}
    (hk : List.Forall₂ (fun a c ↦ sameLetter a c) w k)
    (hk' : List.Forall₂ (fun a c ↦ sameLetter a c) w k') (hgap : ∀ c ∈ gap, isBlank c)
    (hgap' : ∀ c ∈ gap', isBlank c) (h : u ++ (k ++ gap) = u' ++ (k' ++ gap')) :
    u.length = u'.length := by
  have hlast {u k : Text} (hk : List.Forall₂ (fun a c ↦ sameLetter a c) w k) :
      ∀ c, (k.reverse ++ u.reverse).head? = some c → isBlank c = false := by
    have hrun : IsRun k.reverse := ⟨by simpa using (hw.isRun hk).ne_nil,
      by simpa using (hw.isRun hk).word⟩
    exact hrun.isBlank_head u.reverse
  have hreverse : gap.reverse ++ (k.reverse ++ u.reverse) =
      gap'.reverse ++ (k'.reverse ++ u'.reverse) := by
    simpa using congrArg List.reverse h
  have hrest := (eq_of_append_run (by simpa using hgap) (by simpa using hgap') (hlast hk)
    (hlast hk') hreverse).2
  have hlength := congrArg List.length hrest
  simp only [List.length_append, List.length_reverse, ← hk.length_eq, ← hk'.length_eq] at hlength
  omega

theorem not_straddlesAt_loop (hw : IsLetters w)
    (h : StandsAt (inOrder [keyword "do", blanks1, keyword w]).Spells a i) :
    ¬ StraddlesAt (inOrder [keyword "do", blanks1, keyword w]).Spells a b i := by
  rw [straddlesAt_loop hw]
  rintro ⟨⟨u', k₂, g, ha, hu', hdo, hg⟩, -⟩
  obtain ⟨u, v, r, rfl, hu, hv, -⟩ := h
  obtain ⟨k, gap, k', rfl, hk, -, hk'⟩ := spells_loop.mp hv
  obtain ⟨-, hrest⟩ := List.append_inj ha (hu.trans hu'.symm)
  rw [List.append_assoc] at hrest
  obtain ⟨-, hrest⟩ := List.append_inj hrest (hk.length_eq.symm.trans hdo.same.length_eq)
  obtain ⟨c, k', rfl⟩ := List.exists_cons_of_ne_nil (hw.isRun hk').ne_nil
  have hword := (hw.isRun hk').word c List.mem_cons_self
  have hblank := hg c (by simp [← hrest])
  rw [isBlank_of_isWord hword] at hblank
  cases hblank

theorem count_loopWith_append (hw : IsLetters w) (hd : w.head? ≠ some 'd') (a b : Text) :
    count (loopWith w) (a ++ '\n' :: b) = count (loopWith w) a + count (loopWith w) b +
      if EndsWithWord "do" a ∧ BeginsWithWord w b then 1 else 0 := by
  classical
  let P := (inOrder [keyword "do", blanks1, keyword w]).Spells
  have hcount (t : Text) : count (loopWith w) t = Nat.count (StandsAt P t) (t.length + 1) := by
    have hregular : (inOrder [keyword "do", blanks1, keyword w]).isRegular := by
      rw [isRegular_inOrder]
      simp only [List.all_cons, isRegular_keyword]
      rfl
    exact length_findAll_edged hregular (worded_loop hw)
      (fun _ _ _ _ _ hxy hx hy hedge hv ↦ loop_apart hw hd hxy hx hy hedge hv) t
  have hstraddles : Nat.count (StraddlesAt P a b) (a.length + 1) =
      if EndsWithWord "do" a ∧ BeginsWithWord w b then 1 else 0 := by
    split
    · next h =>
      obtain ⟨⟨u, k, gap, ha, hdo, hgap⟩, hb⟩ := h
      refine count_of_unique (i := u.length) (fun i j hi hj ↦ ?_)
        ((straddlesAt_loop hw).mpr ⟨⟨u, k, gap, ha, rfl, hdo, hgap⟩, hb⟩) ?_
      · obtain ⟨⟨u, k, gap, ha, rfl, hdo, hgap⟩, -⟩ := (straddlesAt_loop hw).mp hi
        obtain ⟨⟨u', k', gap', ha', rfl, hdo', hgap'⟩, -⟩ := (straddlesAt_loop hw).mp hj
        exact length_eq_of_last_word isLetters_do hdo.same hdo'.same hgap hgap' (ha.symm.trans ha')
      · simp only [ha, List.length_append]
        omega
    · next h =>
      refine Nat.count_iff_forall_not.mpr fun i _ hi ↦ h ?_
      obtain ⟨⟨u, k, gap, ha, -, hdo, hgap⟩, hb⟩ := (straddlesAt_loop hw).mp hi
      exact ⟨⟨u, k, gap, ha, hdo, hgap⟩, hb⟩
  rw [hcount, hcount, hcount, count_standsAt_append,
    count_or (fun i ↦ not_straddlesAt_loop hw) (a.length + 1), hstraddles]
  exact Nat.add_right_comm ..

theorem head?_eq_of_beginsWithWord {w w' t : Text} (hw : IsLetters w) (hw' : IsLetters w')
    (h : BeginsWithWord w t) (h' : BeginsWithWord w' t) : w.head? = w'.head? := by
  obtain ⟨gap, k, r, rfl, hword, hgap⟩ := h
  obtain ⟨gap', k', r', heq, hword', hgap'⟩ := h'
  have hrest := (eq_of_append_run hgap hgap' ((hw.isRun hword.same).isBlank_head r)
    ((hw'.isRun hword'.same).isBlank_head r') heq).2
  obtain ⟨c, w, rfl⟩ := List.exists_cons_of_ne_nil hw.ne_nil
  obtain ⟨c', w', rfl⟩ := List.exists_cons_of_ne_nil hw'.ne_nil
  obtain ⟨d, k, hc, -, rfl⟩ := List.forall₂_cons_left_iff.mp hword.same
  obtain ⟨d', k', hc', -, rfl⟩ := List.forall₂_cons_left_iff.mp hword'.same
  obtain ⟨rfl, -⟩ := List.cons.inj hrest
  exact congrArg some (eq_of_sameLetter (hw.mem_asciiLetters c List.mem_cons_self)
    (hw'.mem_asciiLetters c' List.mem_cons_self) hc hc')

theorem countDecisions_eq (code : Text) : countDecisions code =
    count (wholeWord "if") code + count (wholeWord "else") code + count (wholeWord "when") code +
      count (loopWith "while") code + count (loopWith "until") code +
      count (wholeWord "select") code := by
  simp only [countDecisions, decisions, List.foldl_cons, List.foldl_nil, Nat.zero_add]

theorem countDecisions_append (a b : Text) :
    countDecisions (a ++ '\n' :: b) = countDecisions a + countDecisions b +
      if EndsWithWord "do" a ∧ (BeginsWithWord "while" b ∨ BeginsWithWord "until" b) then 1
      else 0 := by
  have hwhile : IsLetters "while" := ⟨by decide, by decide⟩
  have huntil : IsLetters "until" := ⟨by decide, by decide⟩
  have hone : ¬ (BeginsWithWord "while" b ∧ BeginsWithWord "until" b) := fun h ↦
    absurd (head?_eq_of_beginsWithWord hwhile huntil h.1 h.2) (by decide)
  have hcondition :
      (if EndsWithWord "do" a ∧ (BeginsWithWord "while" b ∨ BeginsWithWord "until" b) then 1
        else 0) =
      (if EndsWithWord "do" a ∧ BeginsWithWord "while" b then 1 else 0) +
        if EndsWithWord "do" a ∧ BeginsWithWord "until" b then 1 else 0 := by
    by_cases hloop : EndsWithWord "do" a <;> by_cases hfirst : BeginsWithWord "while" b <;>
      by_cases hsecond : BeginsWithWord "until" b <;> simp_all
  rw [countDecisions_eq, countDecisions_eq, countDecisions_eq, hcondition,
    count_wholeWord_append ⟨by decide, by decide⟩, count_wholeWord_append ⟨by decide, by decide⟩,
    count_wholeWord_append ⟨by decide, by decide⟩, count_wholeWord_append ⟨by decide, by decide⟩,
    count_loopWith_append hwhile (by decide), count_loopWith_append huntil (by decide)]
  omega

/-- What is counted in two programs with a line feed between them. -/
theorem ofCode_append_newline (a b : Text) :
    let whole := ofCode (a ++ '\n' :: b)
    whole.totalLines = (ofCode a).totalLines + (ofCode b).totalLines ∧
      whole.codeLines = (ofCode a).codeLines + (ofCode b).codeLines ∧
      whole.conditions = (ofCode a).conditions + (ofCode b).conditions ∧
      whole.loops = (ofCode a).loops + (ofCode b).loops ∧
      (whole.cyclomatic : Int) - 1 =
        ((ofCode a).cyclomatic - 1) + ((ofCode b).cyclomatic - 1) +
          if EndsWithWord "do" a ∧ (BeginsWithWord "while" b ∨ BeginsWithWord "until" b) then 1
          else 0 := by
  intro whole
  have hlines := lines_append_newline a b
  refine ⟨?_, ?_, count_wholeWord_append ⟨by decide, by decide⟩ a b,
    count_wholeWord_append isLetters_do a b, ?_⟩
  · change (lines (a ++ '\n' :: b)).length = _
    rw [hlines, List.length_append]
    rfl
  · change (lines (a ++ '\n' :: b)).countP isCodeLine = _
    rw [hlines, List.countP_append]
    rfl
  · have hcount := countDecisions_append a b
    change ((countDecisions (a ++ '\n' :: b) + 1 : Nat) : Int) - 1 =
      (((countDecisions a + 1 : Nat) : Int) - 1) + (((countDecisions b + 1 : Nat) : Int) - 1) + _
    by_cases h : EndsWithWord "do" a ∧ (BeginsWithWord "while" b ∨ BeginsWithWord "until" b)
    · rw [if_pos h] at hcount ⊢
      omega
    · rw [if_neg h] at hcount ⊢
      omega

end Complexity

end SasMigration
