import Mathlib.Data.List.Nodup
import Mathlib.Tactic.Common
import SasMigration.Text.Basic

namespace SasMigration.Text

variable {s t u : Text} {ts us : List Text}

theorem mem_firstOccurrences {α : Type} [BEq α] [LawfulBEq α] {x : α} {xs : List α} :
    x ∈ firstOccurrences xs ↔ x ∈ xs := by
  induction xs with
  | nil => exact Iff.rfl
  | cons y ys ih =>
    rw [firstOccurrences, List.mem_cons, List.mem_cons, List.mem_filter, ih]
    by_cases hx : x = y <;> simp [hx]

theorem nodup_firstOccurrences {α : Type} [BEq α] [LawfulBEq α] (xs : List α) :
    (firstOccurrences xs).Nodup := by
  induction xs with
  | nil => exact List.nodup_nil
  | cons x xs ih =>
    rw [firstOccurrences, List.nodup_cons]
    exact ⟨by simp, ih.filter _⟩

theorem firstOccurrences_concat {α : Type} [BEq α] [LawfulBEq α] [DecidableEq α] (xs : List α)
    (x : α) :
    firstOccurrences (xs ++ [x]) =
      if x ∈ xs then firstOccurrences xs else firstOccurrences xs ++ [x] := by
  induction xs with
  | nil => rfl
  | cons y ys ih =>
    rw [List.cons_append, firstOccurrences, firstOccurrences, ih]
    by_cases hys : x ∈ ys
    · rw [if_pos hys, if_pos (List.mem_cons_of_mem y hys)]
    · rw [if_neg hys]
      by_cases hy : x = y
      · simp [hy]
      · simp [hys, hy]

theorem firstOccurrences_sublist {α : Type} [BEq α] (xs : List α) :
    (firstOccurrences xs).Sublist xs := by
  induction xs with
  | nil => exact .slnil
  | cons x xs ih => exact (List.filter_sublist.trans ih).cons_cons x

theorem length_firstOccurrences_eq_iff {α : Type} [BEq α] [LawfulBEq α] {xs : List α} :
    (firstOccurrences xs).length = xs.length ↔ xs.Nodup := by
  constructor
  · intro h
    rw [← (firstOccurrences_sublist xs).eq_of_length h]
    exact nodup_firstOccurrences xs
  · intro h
    refine List.Perm.length_eq ?_
    rw [List.perm_ext_iff_of_nodup (nodup_firstOccurrences xs) h]
    intro x
    exact mem_firstOccurrences

protected theorem le_trans (h : le s t) (h' : le t u) : le s u := by
  induction s generalizing t u with
  | nil => rfl
  | cons a s ih =>
    cases t with
    | nil => cases h
    | cons b t =>
      cases u with
      | nil => cases h'
      | cons c u =>
        simp only [le, Bool.or_eq_true, decide_eq_true_eq, Bool.and_eq_true, beq_iff_eq] at h h' ⊢
        rcases h with hab | ⟨rfl, hst⟩
        · rcases h' with hbc | ⟨rfl, -⟩
          · exact .inl (Nat.lt_trans hab hbc)
          · exact .inl hab
        · exact h'.imp_right fun htu ↦ ⟨htu.1, ih hst htu.2⟩

protected theorem le_total (s t : Text) : (le s t || le t s) = true := by
  induction s generalizing t with
  | nil => rfl
  | cons a s ih =>
    cases t with
    | nil => rfl
    | cons b t =>
      have hst := ih t
      simp only [le, Bool.or_eq_true, decide_eq_true_eq, Bool.and_eq_true, beq_iff_eq] at hst ⊢
      rcases Nat.lt_trichotomy a.toNat b.toNat with hab | hab | hab
      · exact .inl (.inl hab)
      · obtain rfl := Char.toNat_inj.mp hab
        exact hst.imp (fun h ↦ .inr ⟨rfl, h⟩) fun h ↦ .inr ⟨rfl, h⟩
      · exact .inr (.inl hab)

protected theorem le_antisymm (h : le s t) (h' : le t s) : s = t := by
  induction s generalizing t with
  | nil =>
    cases t with
    | nil => rfl
    | cons b t => cases h'
  | cons a s ih =>
    cases t with
    | nil => cases h
    | cons b t =>
      simp only [le, Bool.or_eq_true, decide_eq_true_eq, Bool.and_eq_true, beq_iff_eq] at h h'
      rcases h with hab | ⟨rfl, hst⟩
      · rcases h' with hba | ⟨rfl, -⟩ <;> omega
      · rcases h' with haa | ⟨-, hts⟩
        · omega
        · rw [ih hst hts]

theorem mem_distinctSorted : t ∈ distinctSorted ts ↔ t ∈ ts := by
  rw [distinctSorted, List.mem_mergeSort, mem_firstOccurrences]

theorem nodup_distinctSorted (ts : List Text) : (distinctSorted ts).Nodup :=
  List.nodup_mergeSort.mpr (nodup_firstOccurrences ts)

theorem pairwise_distinctSorted (ts : List Text) :
    (distinctSorted ts).Pairwise fun s t ↦ le s t := by
  apply List.pairwise_mergeSort
  · intro s t u
    exact Text.le_trans
  · exact Text.le_total

theorem distinctSorted_congr (h : ∀ t, t ∈ ts ↔ t ∈ us) :
    distinctSorted ts = distinctSorted us := by
  have hperm : (distinctSorted ts).Perm (distinctSorted us) := by
    rw [List.perm_ext_iff_of_nodup (nodup_distinctSorted ts) (nodup_distinctSorted us)]
    intro t
    rw [mem_distinctSorted, mem_distinctSorted, h]
  exact hperm.eq_of_pairwise (fun _ _ _ _ ↦ Text.le_antisymm) (pairwise_distinctSorted ts)
    (pairwise_distinctSorted us)

end SasMigration.Text
