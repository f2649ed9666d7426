import SasMigration.Proofs.Pattern.Locality

namespace SasMigration.Pattern

open Cursor

variable {p q : Pattern} {ps : List Pattern} {s t : Cursor} {v w rest : Text}

/-- Patterns that look at nothing but the characters they take, and take back any repetition. -/
def isRegular : Pattern → Bool
  | .empty | .one _ | .span .longest _ none _ => true
  | .both p q | .either p q => p.isRegular && q.isRegular
  | .repeated .longest 0 _ p => p.isRegular
  | _ => false

theorem isRegular_inOrder : (inOrder ps).isRegular = ps.all isRegular := by
  induction ps with
  | nil => rfl
  | cons p ps ih =>
    cases ps with
    | nil => simp [inOrder]
    | cons q ps => exact congrArg (p.isRegular && ·) ih

theorem isRegular_keyword (w : Text) : (keyword w).isRegular := by
  rw [keyword, isRegular_inOrder, List.all_eq_true]
  intro p hp
  obtain ⟨c, -, rfl⟩ := List.mem_map.mp hp
  rfl

/-- The texts that a regular pattern stands for. -/
def Spells : Pattern → Text → Prop
  | .empty, v => v = []
  | .one set, v => ∃ c, set.holds c ∧ v = [c]
  | .span _ low _ set, v => low ≤ v.length ∧ ∀ c ∈ v, set.holds c
  | .both p q, v => ∃ x y, p.Spells x ∧ q.Spells y ∧ v = x ++ y
  | .either p q, v => p.Spells v ∨ q.Spells v
  | .repeated _ _ high p, v =>
    ∃ turns : List Text, (∀ n, high = some n → turns.length ≤ n) ∧ (∀ w ∈ turns, p.Spells w) ∧
      v = turns.flatten
  | _, _ => False

theorem spells_inOrder_cons :
    (inOrder (p :: ps)).Spells v ↔ ∃ x y, p.Spells x ∧ (inOrder ps).Spells y ∧ v = x ++ y := by
  cases ps with
  | nil => simp [inOrder, Spells]
  | cons q ps => rfl

theorem spells_inOrder_singleton : (inOrder [p]).Spells v ↔ p.Spells v := Iff.rfl

theorem spells_inOrder_cons_cons : (inOrder (p :: q :: ps)).Spells v ↔
    ∃ x y, p.Spells x ∧ (inOrder (q :: ps)).Spells y ∧ v = x ++ y := Iff.rfl

theorem spells_letters {letterCase : LetterCase} :
    (inOrder (w.map fun c ↦ one (.letter c letterCase))).Spells v ↔
      List.Forall₂ (fun a b ↦ letterCase.same a b) w v := by
  induction w generalizing v with
  | nil => exact List.forall₂_nil_left_iff.symm
  | cons c w ih =>
    rw [List.map_cons, spells_inOrder_cons, List.forall₂_cons_left_iff]
    simp only [ih]
    constructor
    · rintro ⟨x, y, ⟨d, hd, rfl⟩, hy, rfl⟩
      exact ⟨d, y, hd, hy, rfl⟩
    · rintro ⟨d, y, hd, hy, rfl⟩
      exact ⟨[d], y, ⟨d, hd, rfl⟩, hy, rfl⟩

theorem spells_keyword :
    (keyword w).Spells v ↔ List.Forall₂ (fun a b ↦ Text.sameLetter a b) w v := spells_letters

theorem spells_literal : (literal w).Spells v ↔ v = w := by
  have heq : (fun a b ↦ (LetterCase.distinguished.same a b : Prop)) = Eq := by
    funext a b
    exact propext beq_iff_eq
  rw [literal, spells_letters, heq, List.forall₂_eq_eq_eq, eq_comm]

theorem spells_blanks : blanks.Spells v ↔ ∀ c ∈ v, Text.isBlank c := by
  simp [blanks, Spells, CharSet.holds, CharSet.blank, ClassItem.holds, CharKind.holds]

theorem spells_blanks1 : blanks1.Spells v ↔ Text.IsGap v := by
  have hspan : blanks1.Spells v ↔ v ≠ [] ∧ ∀ c ∈ v, Text.isBlank c := by
    simp [blanks1, Spells, CharSet.holds, CharSet.blank, ClassItem.holds, CharKind.holds,
      Nat.one_le_iff_ne_zero]
  exact hspan.trans ⟨fun h ↦ ⟨h.1, h.2⟩, fun h ↦ ⟨h.ne_nil, h.blank⟩⟩

theorem spells_word1 : word1.Spells v ↔ Text.IsRun v := by
  have hspan : word1.Spells v ↔ v ≠ [] ∧ ∀ c ∈ v, Text.isWord c := by
    simp [word1, Spells, CharSet.holds, CharSet.word, ClassItem.holds, CharKind.holds,
      Nat.one_le_iff_ne_zero]
  exact hspan.trans ⟨fun h ↦ ⟨h.1, h.2⟩, fun h ↦ ⟨h.ne_nil, h.word⟩⟩

theorem spells_optional : (optional p).Spells v ↔ v = [] ∨ p.Spells v := by
  constructor
  · rintro ⟨turns, hone, hturns, rfl⟩
    match turns, hone 1 rfl with
    | [], _ => exact .inl rfl
    | [w], _ => exact .inr (by simpa using hturns w (by simp))
  · rintro (rfl | h)
    · exact ⟨[], by simp, by simp, rfl⟩
    · exact ⟨[v], by simp, by simpa using h, by simp⟩

section Turns

theorem length_le_length_flatten {turns : List Text} (h : ∀ w ∈ turns, w ≠ []) :
    turns.length ≤ turns.flatten.length := by
  induction turns with
  | nil => exact Nat.zero_le _
  | cons w turns ih =>
    obtain ⟨hw, hturns⟩ := List.forall_mem_cons.mp h
    have hpos := List.length_pos_iff.mpr hw
    have hle := ih hturns
    rw [List.flatten_cons, List.length_append, List.length_cons]
    omega

variable {body : Cursor → List Cursor} {P : Text → Prop} {n : Nat}

theorem exists_turns_of_mem_furtherEnds (hbody : ∀ s, ∀ t ∈ body s, ∃ v, P v ∧ s.Takes v t)
    (h : t ∈ furtherEnds .longest body n s) :
    ∃ turns : List Text, turns.length ≤ n ∧ (∀ w ∈ turns, P w) ∧ s.Takes turns.flatten t := by
  induction n generalizing s with
  | zero =>
    cases List.mem_singleton.mp h
    exact ⟨[], Nat.zero_le _, by simp, .refl _⟩
  | succ n ih =>
    simp only [furtherEnds, List.mem_append, List.mem_flatMap, List.mem_singleton] at h
    rcases h with ⟨u, hu, ht⟩ | rfl
    · obtain ⟨v, hv, htakes⟩ := hbody s u hu
      split at ht
      · cases List.mem_singleton.mp ht
        exact ⟨[v], by simp, by simpa using hv, by simpa using htakes⟩
      · obtain ⟨turns, hn, hturns, htakes'⟩ := ih ht
        exact ⟨v :: turns, Nat.succ_le_succ hn, List.forall_mem_cons.mpr ⟨hv, hturns⟩,
          htakes.trans htakes'⟩
    · exact ⟨[], Nat.zero_le _, by simp, .refl _⟩

theorem exists_mem_furtherEnds {turns : List Text}
    (hbody : ∀ s w rest, P w → s.after.length ≤ s.size → s.after = w ++ rest →
      ∃ t ∈ body s, s.Takes w t)
    (hturns : ∀ w ∈ turns, w ≠ [] ∧ P w) (hn : turns.length ≤ n) (hsize : s.after.length ≤ s.size)
    (hs : s.after = turns.flatten ++ rest) :
    ∃ t ∈ furtherEnds .longest body n s, s.Takes turns.flatten t := by
  induction turns generalizing n s with
  | nil =>
    refine ⟨s, ?_, .refl s⟩
    cases n with
    | zero => exact List.mem_singleton_self s
    | succ n => exact List.mem_append_right _ (List.mem_singleton_self s)
  | cons w turns ih =>
    obtain ⟨⟨hne, hw⟩, hturns⟩ := List.forall_mem_cons.mp hturns
    cases n with
    | zero => simp at hn
    | succ n =>
      rw [List.flatten_cons, List.append_assoc] at hs
      obtain ⟨t, ht, htakes⟩ := hbody s w _ hw hsize hs
      have hafter : t.after = turns.flatten ++ rest :=
        List.append_cancel_left (htakes.after_eq.symm.trans hs)
      obtain ⟨e, he, htakes'⟩ :=
        ih hturns (Nat.le_of_succ_le_succ hn) (htakes.length_after_le hsize) hafter
      have hmoved : t.index ≠ s.index := by
        have hpos := List.length_pos_iff.mpr hne
        rw [htakes.index_eq]
        omega
      refine ⟨e, ?_, htakes.trans htakes'⟩
      refine List.mem_append_left _ (List.mem_flatMap.mpr ⟨t, ht, ?_⟩)
      rwa [if_neg hmoved]

end Turns

theorem exists_spells_of_mem_ends (hp : p.isRegular) (h : t ∈ p.ends s) :
    ∃ v, p.Spells v ∧ s.Takes v t := by
  fun_induction isRegular p generalizing s t with
  | case1 =>
    cases List.mem_singleton.mp h
    exact ⟨[], rfl, .refl _⟩
  | case2 set =>
    obtain ⟨c, rest, hs, hc, rfl⟩ := mem_ends_one.mp h
    exact ⟨[c], ⟨c, hc, rfl⟩, .step hs⟩
  | case3 low set =>
    obtain ⟨v, hv⟩ := takes_of_mem_ends h
    exact ⟨v, holds_of_mem_ends_span h hv, hv⟩
  | case4 p q ihp ihq =>
    rw [Bool.and_eq_true] at hp
    obtain ⟨u, hu, ht⟩ := List.mem_flatMap.mp h
    obtain ⟨v, hv, htakes⟩ := ihp hp.1 hu
    obtain ⟨w, hw, htakes'⟩ := ihq hp.2 ht
    exact ⟨v ++ w, ⟨v, w, hv, hw, rfl⟩, htakes.trans htakes'⟩
  | case5 p q ihp ihq =>
    rw [Bool.and_eq_true] at hp
    rcases List.mem_append.mp h with h | h
    · obtain ⟨v, hv, htakes⟩ := ihp hp.1 h
      exact ⟨v, .inl hv, htakes⟩
    · obtain ⟨v, hv, htakes⟩ := ihq hp.2 h
      exact ⟨v, .inr hv, htakes⟩
  | case6 high p ih =>
    rw [ends_repeated_longest] at h
    obtain ⟨turns, hn, hturns, htakes⟩ := exists_turns_of_mem_furtherEnds (fun s t ↦ ih hp) h
    refine ⟨_, ⟨turns, fun n hhigh ↦ ?_, hturns, rfl⟩, htakes⟩
    rw [hhigh, turnBound] at hn
    omega
  | case7 => cases hp

theorem exists_mem_ends_of_spells (hp : p.isRegular) (hv : p.Spells v)
    (hsize : s.after.length ≤ s.size) (hs : s.after = v ++ rest) : ∃ t ∈ p.ends s, s.Takes v t := by
  fun_induction isRegular p generalizing s v rest with
  | case1 =>
    cases hv
    exact ⟨s, List.mem_singleton_self s, .refl s⟩
  | case2 set =>
    obtain ⟨c, hc, rfl⟩ := hv
    exact ⟨_, mem_ends_one.mpr ⟨c, rest, hs, hc, rfl⟩, .step hs⟩
  | case3 low set => exact accepts_longest hv.1 hv.2 s rest hs
  | case4 p q ihp ihq =>
    rw [Bool.and_eq_true] at hp
    obtain ⟨x, y, hx, hy, rfl⟩ := hv
    rw [List.append_assoc] at hs
    obtain ⟨t, ht, htakes⟩ := ihp hp.1 hx hsize hs
    have hafter : t.after = y ++ rest := List.append_cancel_left (htakes.after_eq.symm.trans hs)
    obtain ⟨e, he, htakes'⟩ := ihq hp.2 hy (htakes.length_after_le hsize) hafter
    exact ⟨e, List.mem_flatMap.mpr ⟨t, ht, he⟩, htakes.trans htakes'⟩
  | case5 p q ihp ihq =>
    rw [Bool.and_eq_true] at hp
    rcases hv with hv | hv
    · obtain ⟨t, ht, htakes⟩ := ihp hp.1 hv hsize hs
      exact ⟨t, List.mem_append_left _ ht, htakes⟩
    · obtain ⟨t, ht, htakes⟩ := ihq hp.2 hv hsize hs
      exact ⟨t, List.mem_append_right _ ht, htakes⟩
  | case6 high p ih =>
    obtain ⟨turns, hhigh, hturns, rfl⟩ := hv
    -- turns that take nothing are left out, for matching makes such a turn only as its last
    have hnonempty : (turns.filter fun w ↦ !w.isEmpty).flatten = turns.flatten :=
      List.flatten_filter_not_isEmpty
    have hmade : ∀ w ∈ turns.filter fun w ↦ !w.isEmpty, w ≠ [] ∧ p.Spells w := by
      intro w hw
      obtain ⟨hw, hne⟩ := List.mem_filter.mp hw
      exact ⟨by simpa using hne, hturns w hw⟩
    rw [← hnonempty] at hs ⊢
    rw [ends_repeated_longest]
    refine exists_mem_furtherEnds (fun s w rest hw ↦ ih hp hw) hmade ?_ hsize hs
    have hle := length_le_length_flatten fun w hw ↦ (hmade w hw).1
    have hlength := congrArg List.length hs
    have hfilter := turns.length_filter_le fun w ↦ !w.isEmpty
    rw [List.length_append] at hlength
    cases high with
    | none =>
      rw [turnBound]
      omega
    | some n =>
      have hn := hhigh n rfl
      rw [turnBound]
      omega
  | case7 => cases hp

/-- A pattern between the beginning and the end of a text matches if it spells the text, of which a
last line feed may be left. -/
theorem isSome_matchStart?_iff (hp : p.isRegular) :
    ((inOrder [anchor .textStart, p, anchor .finalLineEnd]).matchStart? v).isSome ↔
      p.Spells v ∨ ∃ w, p.Spells w ∧ v = w ++ ['\n'] := by
  have hends : ((inOrder [anchor .textStart, p, anchor .finalLineEnd]).matchStart? v).isSome ↔
      ∃ t ∈ p.ends (.start v), t.after = [] ∨ t.after = ['\n'] := by
    rw [matchStart?, matchAt_false, Option.isSome_map, List.isSome_head?, ← List.length_pos_iff,
      List.length_pos_iff_exists_mem]
    simp [inOrder, ends, Anchor.holds, start]
  rw [hends]
  constructor
  · rintro ⟨t, ht, hafter⟩
    obtain ⟨w, hw, htakes⟩ := exists_spells_of_mem_ends hp ht
    have hv : v = w ++ t.after := htakes.after_eq
    rcases hafter with hafter | hafter
    · rw [hafter, List.append_nil] at hv
      exact .inl (hv ▸ hw)
    · exact .inr ⟨w, hw, hafter ▸ hv⟩
  · intro h
    obtain ⟨w, rest, hw, hv, hrest⟩ : ∃ w rest, p.Spells w ∧ v = w ++ rest ∧
        (rest = [] ∨ rest = ['\n']) := by
      rcases h with h | ⟨w, hw, hv⟩
      · exact ⟨v, [], h, (List.append_nil v).symm, .inl rfl⟩
      · exact ⟨w, ['\n'], hw, hv, .inr rfl⟩
    obtain ⟨t, ht, htakes⟩ := exists_mem_ends_of_spells (s := .start v) hp hw (Nat.le_refl _) hv
    refine ⟨t, ht, ?_⟩
    rwa [← List.append_cancel_left (hv.symm.trans htakes.after_eq)]

end SasMigration.Pattern
