import Mathlib.Data.Nat.Count
import SasMigration.Proofs.Pattern.Language

namespace SasMigration.Pattern

open Cursor
open Anchor (isWordAt)

variable {p q : Pattern} {ps : List Pattern} {s e : Cursor} {m : Match} {t u v w r : Text} {i : Nat}

/-- There is a way through the pattern from a place of the text. -/
def MatchesAt (p : Pattern) (t : Text) (i : Nat) : Prop :=
  ∃ u v, t = u ++ v ∧ u.length = i ∧ p.ends (.between u v) ≠ []

theorem MatchesAt.le_length (h : p.MatchesAt t i) : i ≤ t.length := by
  obtain ⟨u, v, rfl, rfl, -⟩ := h
  simp

theorem matchesAt_of_mem_findAll (h : m ∈ p.findAll t) : p.MatchesAt t m.start := by
  obtain ⟨u, v, e, ht, hstart, -, he, -⟩ := isOf_of_mem_findAll h
  exact ⟨u, m.text ++ v, ht, hstart.symm, List.ne_nil_of_mem he⟩

/-- No match begins within another. -/
def Apart (p : Pattern) : Prop :=
  ∀ u x y r e, e ∈ p.ends (.between u (x ++ y ++ r)) →
    (Cursor.between u (x ++ y ++ r)).Takes (x ++ y) e → x ≠ [] → y ≠ [] →
    p.ends (.between (u ++ x) (y ++ r)) = []

theorem Apart.exists_mem_findAll (ha : p.Apart) (hp : p.Consumes) (h : p.MatchesAt t i) :
    ∃ m ∈ p.findAll t, m.start = i := by
  obtain ⟨u, v, rfl, rfl, hends⟩ := h
  obtain ⟨e, he⟩ := List.exists_mem_of_ne_nil _ hends
  obtain ⟨m, hm⟩ := exists_matchAt he
  obtain ⟨m', hm', hle, hlt, -⟩ := hp.exists_mem_findAll hm
  refine ⟨m', hm', Nat.le_antisymm hle (Nat.le_of_not_lt fun hbefore ↦ hends ?_)⟩
  -- the place would lie within a match that begins before it
  obtain ⟨u', r, e', ht, hstart, -, he', htakes⟩ := isOf_of_mem_findAll hm'
  rw [hstart] at hbefore
  obtain ⟨x, rfl⟩ : u' <+: u := List.prefix_of_prefix_length_le ⟨_, ht.symm⟩
    (List.prefix_append u v) (Nat.le_of_lt hbefore)
  rw [List.append_assoc, List.append_cancel_left_eq] at ht
  rw [Match.stop, hstart, List.length_append, Nat.add_lt_add_iff_left] at hlt
  obtain ⟨y, hy⟩ : x <+: m'.text := List.prefix_of_prefix_length_le ⟨v, ht⟩
    (List.prefix_append m'.text r) (Nat.le_of_lt hlt)
  rw [← hy] at he' htakes
  have hx : x ≠ [] := by
    rintro rfl
    simp at hbefore
  have hyne : y ≠ [] := by
    rintro rfl
    rw [← hy, List.append_nil] at hlt
    exact Nat.lt_irrefl _ hlt
  have hv : v = y ++ r := by
    rw [← hy, List.append_assoc] at ht
    exact List.append_cancel_left ht
  rw [hv]
  exact ha u' x y r e' he' htakes hx hyne

theorem nodup_starts (hp : p.Consumes) (t : Text) : ((p.findAll t).map (·.start)).Nodup := by
  rw [List.nodup_iff_pairwise_ne, List.pairwise_map]
  refine (pairwise_findAll p t).imp_of_mem fun {m m'} hm _ hle ↦ Nat.ne_of_lt ?_
  exact Nat.lt_of_lt_of_le (hp.start_lt_stop (matchedFrom_of_mem_findFrom hm)) hle

theorem card_starts (hp : p.Consumes) (t : Text) :
    ((p.findAll t).map (·.start)).toFinset.card = (p.findAll t).length := by
  rw [List.toFinset_card_of_nodup (nodup_starts hp t), List.length_map]

open Classical in
theorem length_findAll_le (hp : p.Consumes) (t : Text) :
    (p.findAll t).length ≤ Nat.count (p.MatchesAt t) (t.length + 1) := by
  rw [← card_starts hp, Nat.count_eq_card_filter_range]
  refine Finset.card_le_card fun i hi ↦ ?_
  obtain ⟨m, hm, rfl⟩ := List.mem_map.mp (List.mem_toFinset.mp hi)
  have hmatches := matchesAt_of_mem_findAll hm
  exact Finset.mem_filter.mpr
    ⟨Finset.mem_range.mpr (Nat.lt_succ_of_le hmatches.le_length), hmatches⟩

open Classical in
theorem Apart.length_findAll (ha : p.Apart) (hp : p.Consumes) (t : Text) :
    (p.findAll t).length = Nat.count (p.MatchesAt t) (t.length + 1) := by
  refine Nat.le_antisymm (length_findAll_le hp t) ?_
  rw [← card_starts hp, Nat.count_eq_card_filter_range]
  refine Finset.card_le_card fun i hi ↦ ?_
  obtain ⟨m, hm, rfl⟩ := ha.exists_mem_findAll hp (Finset.mem_filter.mp hi).2
  exact List.mem_toFinset.mpr (List.mem_map_of_mem hm)

/-! Between edges of words -/

theorem isWordAt_append (h : isWordAt false v) (w : Text) : isWordAt false (v ++ w) := by
  cases v with
  | nil => cases h
  | cons c v => exact h

theorem mem_ends_wordEdge : e ∈ wordEdge.ends s ↔ e = s ∧ (Anchor.wordEdge false).holds s := by
  rw [wordEdge, ends]
  split <;> simp_all

theorem mem_ends_edged : e ∈ (inOrder (wordEdge :: (ps ++ [wordEdge]))).ends s ↔
    (Anchor.wordEdge false).holds s ∧ e ∈ (inOrder ps).ends s ∧
      (Anchor.wordEdge false).holds e := by
  rw [mem_ends_inOrder_cons]
  constructor
  · rintro ⟨s', hs', he⟩
    obtain ⟨rfl, hs⟩ := mem_ends_wordEdge.mp hs'
    obtain ⟨e', he', hlast⟩ := mem_ends_inOrder_append.mp he
    obtain ⟨rfl, hedge⟩ := mem_ends_wordEdge.mp hlast
    exact ⟨hs, he', hedge⟩
  · rintro ⟨hs, he, hedge⟩
    exact ⟨s, mem_ends_wordEdge.mpr ⟨rfl, hs⟩,
      mem_ends_inOrder_append.mpr ⟨e, he, mem_ends_wordEdge.mpr ⟨rfl, hedge⟩⟩⟩

/-- Texts that begin and end with a character of a word. -/
def Worded (P : Text → Prop) : Prop := ∀ v, P v → isWordAt false v ∧ isWordAt false v.reverse

/-- A text of a kind stands at a place of a text: no word of which it would be a part goes on before
or after it. -/
def StandsAt (P : Text → Prop) (t : Text) (i : Nat) : Prop :=
  ∃ u v r, t = u ++ (v ++ r) ∧ u.length = i ∧ P v ∧ isWordAt false u.reverse = false ∧
    isWordAt false r = false

theorem exists_spells_of_mem_ends_edged (hps : (inOrder ps).isRegular)
    (hworded : Worded (inOrder ps).Spells)
    (h : e ∈ (inOrder (wordEdge :: (ps ++ [wordEdge]))).ends s) :
    ∃ v, (inOrder ps).Spells v ∧ s.Takes v e ∧ isWordAt false s.before = false ∧
      isWordAt false e.after = false := by
  obtain ⟨hs, he, hedge⟩ := mem_ends_edged.mp h
  obtain ⟨v, hv, htakes⟩ := exists_spells_of_mem_ends hps he
  obtain ⟨hfirst, hlast⟩ := hworded v hv
  refine ⟨v, hv, htakes, ?_, ?_⟩
  · rw [Anchor.holds, htakes.after_eq, isWordAt_append hfirst] at hs
    simpa using hs
  · rw [Anchor.holds, htakes.before_eq, isWordAt_append hlast] at hedge
    simpa using hedge

theorem matchesAt_edged (hps : (inOrder ps).isRegular) (hworded : Worded (inOrder ps).Spells) :
    (inOrder (wordEdge :: (ps ++ [wordEdge]))).MatchesAt t i ↔
      StandsAt (inOrder ps).Spells t i := by
  constructor
  · rintro ⟨u, v, rfl, rfl, hends⟩
    obtain ⟨e, he⟩ := List.exists_mem_of_ne_nil _ hends
    obtain ⟨x, hx, htakes, hbefore, hafter⟩ := exists_spells_of_mem_ends_edged hps hworded he
    exact ⟨u, x, e.after, congrArg (u ++ ·) htakes.after_eq, rfl, hx, hbefore, hafter⟩
  · rintro ⟨u, v, r, rfl, rfl, hv, hbefore, hafter⟩
    obtain ⟨hfirst, hlast⟩ := hworded v hv
    obtain ⟨e, he, htakes⟩ := exists_mem_ends_of_spells (s := .between u (v ++ r)) hps hv
      (Nat.le_add_left _ _) rfl
    have hr : e.after = r := (List.append_cancel_left htakes.after_eq).symm
    refine ⟨u, v ++ r, rfl, rfl, List.ne_nil_of_mem (mem_ends_edged.mpr ⟨?_, he, ?_⟩)⟩
    · simp [Anchor.holds, between, hbefore, isWordAt_append hfirst]
    · simp [Anchor.holds, htakes.before_eq, isWordAt_append hlast, hr, hafter]

open Classical in
/-- A search finds every place where a text that is spelled stands, if none begins within another
after a place where no word ends. -/
theorem length_findAll_edged (hps : (inOrder ps).isRegular) (hworded : Worded (inOrder ps).Spells)
    (h : ∀ x y r w r', (inOrder ps).Spells (x ++ y) → x ≠ [] → y ≠ [] →
      isWordAt false x.reverse = false → (inOrder ps).Spells w → y ++ r ≠ w ++ r') (t : Text) :
    ((inOrder (wordEdge :: (ps ++ [wordEdge]))).findAll t).length =
      Nat.count (StandsAt (inOrder ps).Spells t) (t.length + 1) := by
  have hconsumes : (inOrder (wordEdge :: (ps ++ [wordEdge]))).Consumes := by
    intro s e he
    obtain ⟨v, hv, htakes, -⟩ := exists_spells_of_mem_ends_edged hps hworded he
    have hne : v ≠ [] := by
      rintro rfl
      exact Bool.false_ne_true (hworded [] hv).1
    rw [htakes.index_eq]
    exact Nat.lt_add_of_pos_right (List.length_pos_iff.mpr hne)
  have hapart : (inOrder (wordEdge :: (ps ++ [wordEdge]))).Apart := by
    intro u x y r e he htakes hx hy
    obtain ⟨v, hv, hv', -⟩ := exists_spells_of_mem_ends_edged hps hworded he
    obtain rfl : v = x ++ y := hv'.take_eq.symm.trans htakes.take_eq
    rw [List.eq_nil_iff_forall_not_mem]
    intro e' he'
    obtain ⟨w, hw, htakes', hbefore, -⟩ := exists_spells_of_mem_ends_edged hps hworded he'
    have hx' : isWordAt false x.reverse = false := by
      rw [Bool.eq_false_iff]
      intro hword
      have hwhole := isWordAt_append hword u.reverse
      rw [← List.reverse_append] at hwhole
      exact Bool.false_ne_true (hbefore.symm.trans hwhole)
    exact h x y r w e'.after hv hx hy hx' hw htakes'.after_eq
  have hplaces : (inOrder (wordEdge :: (ps ++ [wordEdge]))).MatchesAt t =
      StandsAt (inOrder ps).Spells t := funext fun i ↦ propext (matchesAt_edged hps hworded)
  rw [hapart.length_findAll hconsumes, hplaces]

end SasMigration.Pattern
