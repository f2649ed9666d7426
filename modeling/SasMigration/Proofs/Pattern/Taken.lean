import Mathlib.Data.List.Forall2
import Mathlib.Logic.Relation
import SasMigration.Proofs.Pattern.Ends

namespace SasMigration

/-- The way from `s` to `t` takes the characters `taken` and keeps the groups recorded before. -/
structure Cursor.Takes (s : Cursor) (taken : Text) (t : Cursor) : Prop where
  size_eq : t.size = s.size
  index_eq : t.index = s.index + taken.length
  before_eq : t.before = taken.reverse ++ s.before
  after_eq : s.after = taken ++ t.after
  groups_suffix : s.groups <:+ t.groups

namespace Cursor.Takes

variable {s t u : Cursor} {v w : Text}

theorem refl (s : Cursor) : s.Takes [] s := ⟨rfl, rfl, rfl, rfl, List.suffix_rfl⟩

theorem trans (h : s.Takes v t) (h' : t.Takes w u) : s.Takes (v ++ w) u where
  size_eq := h'.size_eq.trans h.size_eq
  index_eq := by rw [h'.index_eq, h.index_eq, List.length_append, Nat.add_assoc]
  before_eq := by rw [h'.before_eq, h.before_eq, List.reverse_append, List.append_assoc]
  after_eq := by rw [h.after_eq, h'.after_eq, List.append_assoc]
  groups_suffix := h.groups_suffix.trans h'.groups_suffix

theorem advance {n : Nat} (h : n ≤ s.after.length) : s.Takes (s.after.take n) (s.advance n) where
  size_eq := rfl
  index_eq := by rw [List.length_take, Nat.min_eq_left h]; rfl
  before_eq := rfl
  after_eq := (List.take_append_drop n s.after).symm
  groups_suffix := List.suffix_rfl

theorem step {c : Char} {rest : List Char} (h : s.after = c :: rest) :
    s.Takes [c] (s.step c rest) := ⟨rfl, rfl, rfl, h, List.suffix_rfl⟩

theorem record (h : s.Takes v t) (number : Nat) : s.Takes v (s.record number t) where
  size_eq := h.size_eq
  index_eq := h.index_eq
  before_eq := h.before_eq
  after_eq := h.after_eq
  groups_suffix := h.groups_suffix.trans (List.suffix_cons _ _)

theorem look (h : s.groups <:+ t.groups) : s.Takes [] { s with groups := t.groups } :=
  ⟨rfl, rfl, rfl, rfl, h⟩

theorem take_eq (h : s.Takes v t) : s.after.take (t.index - s.index) = v := by
  rw [h.index_eq, Nat.add_sub_cancel_left, h.after_eq, List.take_left]

theorem length_after_le (h : s.Takes v t) (hs : s.after.length ≤ s.size) :
    t.after.length ≤ t.size := by
  rw [h.after_eq, List.length_append] at hs
  rw [h.size_eq]
  omega

end Cursor.Takes

namespace Pattern

variable {p q : Pattern} {s t u : Cursor}

theorem spanMost_le (pass : Char → Bool) (high : Option Nat) (cs : List Char) :
    spanMost pass high cs ≤ cs.length := by
  induction cs generalizing high with
  | nil => exact Nat.zero_le _
  | cons c rest ih =>
    rw [spanMost]
    split
    · exact Nat.succ_le_succ (ih _)
    · exact Nat.zero_le _

theorem pass_of_mem_take {pass : Char → Bool} {high : Option Nat} {cs : List Char} {n : Nat}
    (hn : n ≤ spanMost pass high cs) {c : Char} (hc : c ∈ cs.take n) : pass c = true := by
  induction cs generalizing high n with
  | nil => simp at hc
  | cons d rest ih =>
    cases n with
    | zero => simp at hc
    | succ n =>
      rw [spanMost] at hn
      split at hn
      · next hd =>
        rw [List.take_succ_cons, List.mem_cons] at hc
        rcases hc with rfl | hc
        · exact hd.2
        · exact ih (Nat.le_of_succ_le_succ hn) hc
      · omega

theorem mem_ends_one {set : CharSet} :
    t ∈ (one set).ends s ↔ ∃ c rest, s.after = c :: rest ∧ set.holds c ∧ t = s.step c rest := by
  rw [ends]
  cases s.after with
  | nil => simp
  | cons c rest => by_cases h : set.holds c <;> simp [h]

theorem mem_ends_span {preference : Preference} {low : Nat} {high : Option Nat} {set : CharSet}
    (h : t ∈ (span preference low high set).ends s) :
    ∃ n, low ≤ n ∧ n ≤ s.after.length ∧ t = s.advance n ∧ ∀ c ∈ s.after.take n, set.holds c := by
  obtain ⟨n, hn, rfl⟩ := List.mem_map.mp h
  obtain ⟨hlow, hmost⟩ := mem_spanSizes hn
  exact ⟨n, hlow, Nat.le_trans hmost (spanMost_le _ _ _), rfl, fun c hc ↦ pass_of_mem_take hmost hc⟩

theorem holds_of_mem_ends_span {preference : Preference} {low : Nat} {high : Option Nat}
    {set : CharSet} {v : Text} (h : t ∈ (span preference low high set).ends s)
    (hv : s.Takes v t) : low ≤ v.length ∧ ∀ c ∈ v, set.holds c := by
  obtain ⟨n, hlow, hn, rfl, hpass⟩ := mem_ends_span h
  obtain rfl := (Cursor.Takes.advance hn).take_eq.symm.trans hv.take_eq
  exact ⟨by rw [List.length_take]; omega, hpass⟩

theorem ends_inOrder_cons (p : Pattern) (ps : List Pattern) (s : Cursor) :
    (inOrder (p :: ps)).ends s = (p.ends s).flatMap (inOrder ps).ends := by
  cases ps with
  | nil => simp [inOrder, ends]
  | cons q ps => rfl

theorem mem_ends_inOrder_cons {ps : List Pattern} :
    t ∈ (inOrder (p :: ps)).ends s ↔ ∃ u ∈ p.ends s, t ∈ (inOrder ps).ends u := by
  rw [ends_inOrder_cons, List.mem_flatMap]

theorem mem_ends_inOrder_append {ps qs : List Pattern} :
    t ∈ (inOrder (ps ++ qs)).ends s ↔ ∃ u ∈ (inOrder ps).ends s, t ∈ (inOrder qs).ends u := by
  induction ps generalizing s with
  | nil => simp [inOrder, ends]
  | cons p ps ih =>
    simp only [List.cons_append, mem_ends_inOrder_cons, ih]
    constructor
    · rintro ⟨u, hu, v, hv, ht⟩
      exact ⟨v, ⟨u, hu, hv⟩, ht⟩
    · rintro ⟨v, ⟨u, hu, hv⟩, ht⟩
      exact ⟨u, hu, v, hv, ht⟩

theorem mem_ends_letters {letterCase : LetterCase} {w : Text} :
    t ∈ (inOrder (w.map fun c ↦ one (.letter c letterCase))).ends s ↔
      t = s.advance w.length ∧
        List.Forall₂ (fun a b ↦ letterCase.same a b) w (s.after.take w.length) := by
  induction w generalizing s with
  | nil => simp [inOrder, ends, Cursor.advance_zero]
  | cons c w ih =>
    simp only [List.map_cons, mem_ends_inOrder_cons, mem_ends_one, ih]
    constructor
    · rintro ⟨u, ⟨d, rest, hs, hd, rfl⟩, rfl, hw⟩
      rw [Cursor.step_eq_advance hs, Cursor.advance_advance, List.length_cons, Nat.add_comm, hs,
        List.take_succ_cons]
      exact ⟨rfl, .cons hd hw⟩
    · rintro ⟨rfl, hw⟩
      cases hs : s.after with
      | nil => simp [hs] at hw
      | cons d rest =>
        rw [hs, List.length_cons, List.take_succ_cons, List.forall₂_cons] at hw
        refine ⟨_, ⟨d, rest, rfl, hw.1, rfl⟩, ?_, hw.2⟩
        rw [Cursor.step_eq_advance hs, Cursor.advance_advance, List.length_cons, Nat.add_comm]

theorem eq_advance_of_passOver {letterCase : LetterCase} {w : Text}
    (h : passOver letterCase w s = some t) :
    w.length ≤ s.after.length ∧ t = s.advance w.length := by
  induction w generalizing s with
  | nil =>
    cases h
    exact ⟨Nat.zero_le _, (Cursor.advance_zero _).symm⟩
  | cons c w ih =>
    rw [passOver] at h
    cases hs : s.after with
    | nil => simp [hs] at h
    | cons d rest =>
      simp only [hs, Option.ite_none_right_eq_some] at h
      obtain ⟨hw, ht⟩ := ih h.2
      rw [Cursor.step_eq_advance hs, Cursor.advance_advance, Nat.add_comm] at ht
      exact ⟨Nat.succ_le_succ hw, ht⟩

/-- What a repetition is made of: `t` is reached from `s` by turns of a body. -/
def Turns (body : Cursor → List Cursor) : Cursor → Cursor → Prop :=
  Relation.ReflTransGen fun s t ↦ t ∈ body s

variable {preference : Preference} {body : Cursor → List Cursor}

theorem turns_of_mem_turnsEnds {few : Cursor → List Cursor} (hfew : ∀ s, few s ⊆ body s) (n : Nat)
    (h : t ∈ turnsEnds few n s) : Turns body s t := by
  induction n generalizing s with
  | zero =>
    cases List.mem_singleton.mp h
    exact .refl
  | succ n ih =>
    obtain ⟨u, hu, ht⟩ := List.mem_flatMap.mp h
    exact .head (hfew s hu) (ih ht)

theorem turns_of_mem_neededEnds (n : Nat) (h : t ∈ neededEnds preference body n s) :
    Turns body s t := by
  cases preference with
  | longest | shortest => exact turns_of_mem_turnsEnds (fun _ ↦ List.Subset.refl _) n h
  | committed => exact turns_of_mem_turnsEnds (fun _ ↦ List.take_subset 1 _) n h

theorem turns_of_mem_furtherEnds (n : Nat) (h : t ∈ furtherEnds preference body n s) :
    Turns body s t := by
  induction n generalizing s with
  | zero =>
    cases List.mem_singleton.mp h
    exact .refl
  | succ n ih =>
    have hmore (u : Cursor) (hu : u ∈ body s)
        (ht : t ∈ if u.index = s.index then [u] else furtherEnds preference body n u) :
        Turns body s t := by
      split at ht
      · exact .single (List.mem_singleton.mp ht ▸ hu)
      · exact .head hu (ih ht)
    cases preference with
    | longest =>
      simp only [furtherEnds, List.mem_append, List.mem_flatMap, List.mem_singleton] at h
      rcases h with ⟨u, hu, ht⟩ | rfl
      · exact hmore u hu ht
      · exact .refl
    | shortest =>
      simp only [furtherEnds, List.mem_cons, List.mem_flatMap] at h
      rcases h with rfl | ⟨u, hu, ht⟩
      · exact .refl
      · exact hmore u hu ht
    | committed =>
      rw [furtherEnds] at h
      cases hu : (body s).head? with
      | none =>
        simp only [hu, List.mem_singleton] at h
        exact h ▸ .refl
      | some u =>
        simp only [hu] at h
        exact hmore u (List.mem_of_head? hu) h

theorem turns_of_mem_ends {low : Nat} {high : Option Nat}
    (h : t ∈ (repeated preference low high p).ends s) : Turns p.ends s t := by
  obtain ⟨u, hu, ht⟩ := List.mem_flatMap.mp h
  exact (turns_of_mem_neededEnds low hu).trans (turns_of_mem_furtherEnds _ ht)

theorem mem_look {wanted : Bool} {e : Option Cursor}
    (h : t ∈ match e with
      | some u => if wanted then [{ s with groups := u.groups }] else []
      | none => if wanted then [] else [s]) :
    t = s ∨ ∃ u, e = some u ∧ t = { s with groups := u.groups } := by
  cases e with
  | none =>
    cases wanted
    · exact .inl (List.mem_singleton.mp h)
    · cases h
  | some u =>
    cases wanted
    · cases h
    · exact .inr ⟨u, rfl, List.mem_singleton.mp h⟩

theorem mem_ends_ahead {wanted : Bool} (h : t ∈ (ahead wanted p).ends s) :
    t = s ∨ ∃ u ∈ p.ends s, t = { s with groups := u.groups } := by
  rw [ends] at h
  rcases mem_look h with ht | ⟨u, hu, ht⟩
  · exact .inl ht
  · exact .inr ⟨u, List.mem_of_head? hu, ht⟩

theorem mem_ends_behind {wanted : Bool} {width : Nat} (h : t ∈ (behind wanted width p).ends s) :
    t = s ∨ ∃ u ∈ p.ends (s.back width), t = { s with groups := u.groups } := by
  rw [ends] at h
  rcases mem_look h with ht | ⟨u, hu, ht⟩
  · exact .inl ht
  · split at hu
    · cases hu
    · exact .inr ⟨u, List.mem_of_head? hu, ht⟩

theorem mem_ends_again {number : Nat} {letterCase : LetterCase}
    (h : t ∈ (again number letterCase).ends s) :
    ∃ w, s.group number = some w ∧ passOver letterCase w s = some t := by
  rw [ends] at h
  cases hg : s.group number with
  | none => simp [hg] at h
  | some w =>
    simp only [hg, Option.mem_toList] at h
    exact ⟨w, rfl, h⟩

theorem takes_of_mem_ends (h : t ∈ p.ends s) : ∃ v, s.Takes v t := by
  induction p generalizing s t with
  | empty =>
    cases List.mem_singleton.mp h
    exact ⟨[], .refl _⟩
  | one set =>
    obtain ⟨c, rest, hs, -, rfl⟩ := mem_ends_one.mp h
    exact ⟨[c], .step hs⟩
  | span preference low high set =>
    obtain ⟨n, -, hn, rfl, -⟩ := mem_ends_span h
    exact ⟨_, .advance hn⟩
  | both p q ihp ihq =>
    obtain ⟨u, hu, ht⟩ := List.mem_flatMap.mp h
    obtain ⟨v, hv⟩ := ihp hu
    obtain ⟨w, hw⟩ := ihq ht
    exact ⟨v ++ w, hv.trans hw⟩
  | either p q ihp ihq => exact (List.mem_append.mp h).elim ihp ihq
  | group number p ih =>
    obtain ⟨u, hu, rfl⟩ := List.mem_map.mp h
    obtain ⟨v, hv⟩ := ih hu
    exact ⟨v, hv.record number⟩
  | repeated preference low high p ih =>
    have ht := turns_of_mem_ends h
    clear h
    induction ht with
    | refl => exact ⟨[], .refl _⟩
    | tail _ hu iht =>
      obtain ⟨v, hv⟩ := iht
      obtain ⟨w, hw⟩ := ih hu
      exact ⟨v ++ w, hv.trans hw⟩
  | atomic p ih => exact ih (List.mem_of_mem_take h)
  | ahead wanted p ih =>
    rcases mem_ends_ahead h with rfl | ⟨u, hu, rfl⟩
    · exact ⟨[], .refl _⟩
    · obtain ⟨v, hv⟩ := ih hu
      exact ⟨[], .look hv.groups_suffix⟩
  | behind wanted width p ih =>
    rcases mem_ends_behind h with rfl | ⟨u, hu, rfl⟩
    · exact ⟨[], .refl _⟩
    · obtain ⟨v, hv⟩ := ih hu
      exact ⟨[], .look hv.groups_suffix⟩
  | again number letterCase =>
    obtain ⟨w, -, hw⟩ := mem_ends_again h
    obtain ⟨hlen, rfl⟩ := eq_advance_of_passOver hw
    exact ⟨_, .advance hlen⟩
  | ifGroup number p q ihp ihq =>
    rw [ends] at h
    split at h
    · exact ihp h
    · exact ihq h
  | anchor a =>
    rw [ends] at h
    split at h
    · cases List.mem_singleton.mp h
      exact ⟨[], .refl _⟩
    · cases h

/-- What the groups of a pattern record has the property `Q`. -/
def Records (Q : Nat → Text → Prop) : Pattern → Prop
  | .both p q | .either p q | .ifGroup _ p q => p.Records Q ∧ q.Records Q
  | .group number p => p.Records Q ∧ ∀ s t v, t ∈ p.ends s → s.Takes v t → Q number v
  | .repeated _ _ _ p | .atomic p | .ahead _ p | .behind _ _ p => p.Records Q
  | .empty | .one _ | .span .. | .again .. | .anchor _ => True

def HasRecorded (Q : Nat → Text → Prop) (s : Cursor) : Prop := ∀ g ∈ s.groups, Q g.1 g.2.text

theorem hasRecorded_of_mem_ends {Q : Nat → Text → Prop} (hp : p.Records Q) (hs : HasRecorded Q s)
    (h : t ∈ p.ends s) : HasRecorded Q t := by
  induction p generalizing s t with
  | empty => exact List.mem_singleton.mp h ▸ hs
  | one set =>
    obtain ⟨c, rest, -, -, rfl⟩ := mem_ends_one.mp h
    exact hs
  | span preference low high set =>
    obtain ⟨n, -, -, rfl, -⟩ := mem_ends_span h
    exact hs
  | both p q ihp ihq =>
    obtain ⟨u, hu, ht⟩ := List.mem_flatMap.mp h
    exact ihq hp.2 (ihp hp.1 hs hu) ht
  | either p q ihp ihq => exact (List.mem_append.mp h).elim (ihp hp.1 hs) (ihq hp.2 hs)
  | group number p ih =>
    obtain ⟨u, hu, rfl⟩ := List.mem_map.mp h
    obtain ⟨v, hv⟩ := takes_of_mem_ends hu
    intro g hg
    rcases List.mem_cons.mp hg with rfl | hg
    · have hQ := hp.2 s u v hu hv
      rwa [← hv.take_eq] at hQ
    · exact ih hp.1 hs hu g hg
  | repeated preference low high p ih =>
    have ht := turns_of_mem_ends h
    clear h
    induction ht with
    | refl => exact hs
    | tail _ hu iht => exact ih hp iht hu
  | atomic p ih => exact ih hp hs (List.mem_of_mem_take h)
  | ahead wanted p ih =>
    rcases mem_ends_ahead h with rfl | ⟨u, hu, rfl⟩
    · exact hs
    · exact ih (t := u) hp hs hu
  | behind wanted width p ih =>
    rcases mem_ends_behind h with rfl | ⟨u, hu, rfl⟩
    · exact hs
    · exact ih (s := s.back width) (t := u) hp hs hu
  | again number letterCase =>
    obtain ⟨w, -, hw⟩ := mem_ends_again h
    exact (eq_advance_of_passOver hw).2 ▸ hs
  | ifGroup number p q ihp ihq =>
    rw [ends] at h
    split at h
    · exact ihp hp.1 hs h
    · exact ihq hp.2 hs h
  | anchor a =>
    rw [ends] at h
    split at h
    · exact List.mem_singleton.mp h ▸ hs
    · cases h

end Pattern

end SasMigration
