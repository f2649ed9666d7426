import Mathlib.Data.List.Basic
import Mathlib.Tactic.Common
import SasMigration.Text.Basic

namespace SasMigration.Text

variable {old new w t x y : Text} {cuts : List Char} {ts : List Text}

theorem infix_of_infix_cons {a c : Char} (hw : w.head? = some a) (hc : a ≠ c)
    (h : w <:+: c :: t) : w <:+: t := by
  obtain ⟨w, rfl⟩ := List.head?_eq_some_iff.mp hw
  rw [List.infix_cons_iff, List.cons_prefix_cons] at h
  exact h.resolve_left fun h ↦ hc h.1

theorem infix_of_infix_append {a : Char} {u : Text} (hw : w.head? = some a) (ha : a ∉ u)
    (h : w <:+: u ++ t) : w <:+: t := by
  induction u with
  | nil => exact h
  | cons c u ih =>
    rw [List.mem_cons, not_or] at ha
    exact ih ha.2 (infix_of_infix_cons hw ha.1 h)

theorem infix_of_infix_concat {a : Char} (hw : w.getLast? ≠ some a) (h : w <:+: t ++ [a]) :
    w <:+: t := by
  rcases List.infix_concat_iff.mp h with h | h
  · rcases List.suffix_concat_iff.mp h with rfl | ⟨u, rfl, -⟩
    · exact List.nil_infix
    · exact absurd List.getLast?_concat hw
  · exact h

theorem infix_or_of_infix_append {c : Char} (hlast : x.getLast? = some c) (hc : c ∉ w)
    (h : w <:+: x ++ y) : w <:+: x ∨ w <:+: y := by
  rcases List.infix_append_iff_ne_nil.mp h with h | h | ⟨u, u', hu, -, rfl, ⟨s, rfl⟩, -⟩
  · exact .inl h
  · exact .inr h
  · rw [List.getLast?_append_of_ne_nil s hu] at hlast
    exact absurd (List.mem_append_left u' (List.mem_of_getLast? hlast)) hc

theorem replaceFrom_length (old new u t : Text) :
    replaceFrom old new u.length (u ++ t) = replaceAll old new t := by
  induction u with
  | nil => rfl
  | cons c u ih => exact ih

theorem replaceAll_old_append (hold : old ≠ []) :
    replaceAll old new (old ++ t) = new ++ replaceAll old new t := by
  obtain ⟨a, u, rfl⟩ := List.exists_cons_of_ne_nil hold
  have hp : (a :: u).isPrefixOf (a :: (u ++ t)) = true := by
    rw [List.isPrefixOf_iff_prefix]
    exact ⟨t, rfl⟩
  have hu := replaceFrom_length (a :: u) new u t
  simp only [replaceAll, List.cons_append, replaceFrom, hp, if_true, List.length_cons,
    Nat.add_sub_cancel, hu]

theorem replaceAll_cons {c : Char} (h : ¬ old <+: c :: t) :
    replaceAll old new (c :: t) = c :: replaceAll old new t := by
  have hp : old.isPrefixOf (c :: t) = false := by
    rw [Bool.eq_false_iff]
    exact fun hp ↦ h (List.isPrefixOf_iff_prefix.mp hp)
  simp [replaceAll, replaceFrom, hp]

theorem replaceAll_cons_of_notMem {c : Char} (hold : old ≠ []) (hc : c ∉ old) :
    replaceAll old new (c :: t) = c :: replaceAll old new t := by
  apply replaceAll_cons
  obtain ⟨a, u, rfl⟩ := List.exists_cons_of_ne_nil hold
  rw [List.cons_prefix_cons]
  rintro ⟨rfl, -⟩
  exact hc List.mem_cons_self

/-- A text is read as replacement reads it: an occurrence is passed over whole, any other character
alone. -/
@[elab_as_elim]
theorem replace_induction {P : Text → Prop} (hold : old ≠ []) (nil : P [])
    (hit : ∀ t, P t → P (old ++ t)) (miss : ∀ c t, ¬ old <+: c :: t → P t → P (c :: t))
    (t : Text) : P t := by
  induction h : t.length using Nat.strongRecOn generalizing t with
  | ind n ih =>
    cases t with
    | nil => exact nil
    | cons c t =>
      by_cases hp : old <+: c :: t
      · obtain ⟨u, hu⟩ := hp
        have hlen : old.length + u.length = n := by rw [← h, ← hu, List.length_append]
        have hpos := List.length_pos_of_ne_nil hold
        rw [← hu]
        exact hit u (ih u.length (by omega) u rfl)
      · exact miss c t hp (ih t.length (by rw [← h]; exact Nat.lt_succ_self _) t rfl)

theorem prefix_of_prefix_replaceAll {a : Char} (hold : old ≠ []) (hnew : new.head? = some a)
    (ha : a ∉ w) (h : w <+: replaceAll old new t) : w <+: t := by
  induction t using replace_induction hold generalizing w with
  | nil => exact h
  | hit t ih =>
    cases w with
    | nil => exact List.nil_prefix
    | cons b w =>
      obtain ⟨u, rfl⟩ := List.head?_eq_some_iff.mp hnew
      rw [replaceAll_old_append hold, List.cons_append, List.cons_prefix_cons] at h
      exact absurd (h.1 ▸ List.mem_cons_self) ha
  | miss c t hn ih =>
    cases w with
    | nil => exact List.nil_prefix
    | cons b w =>
      rw [replaceAll_cons hn, List.cons_prefix_cons] at h
      rw [List.cons_prefix_cons]
      exact ⟨h.1, ih (fun hm ↦ ha (List.mem_cons_of_mem b hm)) h.2⟩

/-- A word without the first and the last character of the replacement does not reach over its
ends. -/
theorem infix_of_infix_replaceAll {a : Char} (hold : old ≠ []) (hhead : new.head? = some a)
    (hlast : new.getLast? = some a) (ha : a ∉ w) (h : w <:+: replaceAll old new t) :
    w <:+: t ∨ w <:+: new := by
  induction t using replace_induction hold with
  | nil => exact .inl h
  | hit t ih =>
    rw [replaceAll_old_append hold] at h
    rcases infix_or_of_infix_append hlast ha h with h | h
    · exact .inr h
    · exact (ih h).imp_left fun h ↦ h.trans (List.suffix_append old t).isInfix
  | miss c t hn ih =>
    rw [replaceAll_cons hn] at h
    rcases List.infix_cons_iff.mp h with h | h
    · rw [← replaceAll_cons hn] at h
      exact .inl (prefix_of_prefix_replaceAll hold hhead ha h).isInfix
    · exact (ih h).imp_left fun h ↦ h.trans (List.suffix_cons c t).isInfix

theorem replaceAll_replaceAll {a : Char} (hold : old ≠ []) (ha : a ∉ w) (hnew : a :: w <+: new)
    (hw : ¬ w <:+: t) : replaceAll new old (replaceAll old new t) = t := by
  obtain ⟨u, rfl⟩ := hnew
  induction t using replace_induction hold with
  | nil => rfl
  | hit t ih =>
    have ht : ¬ w <:+: t := fun h ↦ hw (h.trans (List.suffix_append old t).isInfix)
    rw [replaceAll_old_append hold, replaceAll_old_append (by simp), ih ht]
  | miss c t hn ih =>
    have ht : ¬ w <:+: t := fun h ↦ hw (h.trans (List.suffix_cons c t).isInfix)
    rw [replaceAll_cons hn, replaceAll_cons, ih ht]
    rw [List.cons_append, List.cons_prefix_cons]
    rintro ⟨-, hp⟩
    have hw' := (List.prefix_append w u).trans hp
    exact ht (prefix_of_prefix_replaceAll hold rfl ha hw').isInfix

/-- A character of `cuts` stands last in `x` or first in `y`, unless one of them is empty. -/
def Parted (cuts : List Char) (x y : Text) : Prop :=
  x = [] ∨ y = [] ∨ (∃ c ∈ cuts, x.getLast? = some c) ∨ ∃ c ∈ cuts, y.head? = some c

theorem Parted.of_append_left {u : Text} (h : Parted cuts (u ++ x) y) : Parted cuts x y := by
  by_cases hx : x = []
  · exact .inl hx
  · rcases h with h | h | ⟨c, hc, h⟩ | h
    · exact .inl (List.append_eq_nil_iff.mp h).2
    · exact .inr (.inl h)
    · exact .inr (.inr (.inl ⟨c, hc, by rwa [List.getLast?_append_of_ne_nil u hx] at h⟩))
    · exact .inr (.inr (.inr h))

theorem Parted.of_append_right {u : Text} (h : Parted cuts x (y ++ u)) : Parted cuts x y := by
  by_cases hy : y = []
  · exact .inr (.inl hy)
  · rcases h with h | h | h | ⟨c, hc, h⟩
    · exact .inl h
    · exact .inr (.inl (List.append_eq_nil_iff.mp h).1)
    · exact .inr (.inr (.inl h))
    · exact .inr (.inr (.inr ⟨c, hc, by rwa [List.head?_append_of_ne_nil y hy] at h⟩))

theorem Parted.cons {c : Char} (h : Parted cuts x y) (hc : x = [] → Parted cuts [c] y) :
    Parted cuts (c :: x) y := by
  by_cases hx : x = []
  · rw [hx]
    exact hc hx
  · rcases h with h | h | ⟨d, hd, h⟩ | h
    · exact absurd h hx
    · exact .inr (.inl h)
    · exact .inr (.inr (.inl ⟨d, hd, by rw [List.getLast?_cons, h]; rfl⟩))
    · exact .inr (.inr (.inr h))

theorem Parted.prefix_of_prefix_append {c : Char} (h : Parted cuts (c :: x) y)
    (hcuts : ∀ c ∈ cuts, c ∉ old) (hp : old <+: c :: (x ++ y)) : old <+: c :: x := by
  rw [← List.cons_append] at hp
  rcases List.prefix_or_prefix_of_prefix hp (List.prefix_append (c :: x) y) with hp' | ⟨z, rfl⟩
  · exact hp'
  · rw [List.prefix_append_right_inj] at hp
    cases z with
    | nil => simp
    | cons d z =>
      obtain ⟨u, rfl⟩ := hp
      rcases h with h | h | ⟨e, he, h⟩ | ⟨e, he, h⟩
      · simp at h
      · simp at h
      · exact absurd (List.mem_append_left _ (List.mem_of_getLast? h)) (hcuts e he)
      · simp only [List.cons_append, List.head?_cons, Option.some.injEq] at h
        exact absurd (by simp [h]) (hcuts e he)

theorem replaceAll_append (hold : old ≠ []) (hcuts : ∀ c ∈ cuts, c ∉ old)
    (h : Parted cuts x y) :
    replaceAll old new (x ++ y) = replaceAll old new x ++ replaceAll old new y := by
  induction x using replace_induction hold with
  | nil => rfl
  | hit x ih =>
    rw [List.append_assoc, replaceAll_old_append hold, replaceAll_old_append hold,
      ih h.of_append_left, List.append_assoc]
  | miss c x hn ih =>
    have hn' : ¬ old <+: c :: (x ++ y) := fun hp ↦ hn (h.prefix_of_prefix_append hcuts hp)
    rw [List.cons_append, replaceAll_cons hn', replaceAll_cons hn,
      ih (h.of_append_left (u := [c])), List.cons_append]

theorem Parted.replaceAll (hold : old ≠ []) (hcuts : ∀ c ∈ cuts, c ∉ old) (h : Parted cuts x y) :
    Parted cuts (replaceAll old new x) (replaceAll old new y) := by
  rcases h with rfl | rfl | ⟨c, hc, h⟩ | ⟨c, hc, h⟩
  · exact .inl rfl
  · exact .inr (.inl rfl)
  · obtain ⟨u, rfl⟩ := List.getLast?_eq_some_iff.mp h
    have hu : Parted cuts u [c] := .inr (.inr (.inr ⟨c, hc, rfl⟩))
    refine .inr (.inr (.inl ⟨c, hc, ?_⟩))
    rw [replaceAll_append hold hcuts hu, replaceAll_cons_of_notMem hold (hcuts c hc)]
    simp [Text.replaceAll, replaceFrom]
  · obtain ⟨u, rfl⟩ := List.head?_eq_some_iff.mp h
    refine .inr (.inr (.inr ⟨c, hc, ?_⟩))
    rw [replaceAll_cons_of_notMem hold (hcuts c hc), List.head?_cons]

/-- Every place between two texts of a list is a parting. -/
def AllParted (cuts : List Char) (ts : List Text) : Prop :=
  ∀ xs ys, ts = xs ++ ys → Parted cuts xs.flatten ys.flatten

theorem AllParted.tail (h : AllParted cuts (t :: ts)) : AllParted cuts ts := by
  rintro xs ys rfl
  exact (h (t :: xs) ys rfl).of_append_left

theorem AllParted.of_append {us : List Text} (h : AllParted cuts (ts ++ us)) :
    AllParted cuts ts := by
  rintro xs ys rfl
  have hp := h xs (ys ++ us) (List.append_assoc xs ys us)
  rw [List.flatten_append] at hp
  exact hp.of_append_right

theorem replaceAll_flatten (hold : old ≠ []) (hcuts : ∀ c ∈ cuts, c ∉ old)
    (h : AllParted cuts ts) :
    replaceAll old new ts.flatten = (ts.map (replaceAll old new)).flatten := by
  induction ts with
  | nil => rfl
  | cons t ts ih =>
    have ht : Parted cuts t ts.flatten := by simpa using h [t] ts rfl
    rw [List.flatten_cons, replaceAll_append hold hcuts ht, ih h.tail, List.map_cons,
      List.flatten_cons]

theorem AllParted.map_replaceAll (hold : old ≠ []) (hcuts : ∀ c ∈ cuts, c ∉ old)
    (h : AllParted cuts ts) : AllParted cuts (ts.map (Text.replaceAll old new)) := by
  intro xs ys he
  obtain ⟨us, vs, rfl, rfl, rfl⟩ := List.map_eq_append_iff.mp he
  have hv : AllParted cuts vs := by
    clear he
    induction us with
    | nil => exact h
    | cons u us ih => exact ih h.tail
  rw [← replaceAll_flatten hold hcuts h.of_append, ← replaceAll_flatten hold hcuts hv]
  exact (h us vs rfl).replaceAll hold hcuts

end SasMigration.Text
