import SasMigration.Proofs.Pattern.Scan
import SasMigration.Proofs.Text.Occurrence

namespace SasMigration

namespace Cursor

variable {s s' t t' u u' : Cursor} {r : Text}

def groupTexts (s : Cursor) : List (Nat × Text) := s.groups.map fun g ↦ (g.1, g.2.text)

/-- A place of a text, and the same place where the text ends before `r`. -/
structure Agrees (r : Text) (s s' : Cursor) : Prop where
  after_eq : s.after = s'.after ++ r
  groupTexts_eq : s.groupTexts = s'.groupTexts

/-- From two places that agree, places are reached that agree, past the same text. -/
structure Reaches (r : Text) (s s' t t' : Cursor) : Prop where
  agrees : Agrees r t t'
  takes : ∃ v, s.Takes v t ∧ s'.Takes v t'

theorem Agrees.refl_reaches (h : Agrees r s s') : Reaches r s s' s s' := ⟨h, [], .refl s, .refl s'⟩

theorem Reaches.trans (h : Reaches r s s' t t') (h' : Reaches r t t' u u') :
    Reaches r s s' u u' := by
  obtain ⟨v, hv, hv'⟩ := h.takes
  obtain ⟨w, hw, hw'⟩ := h'.takes
  exact ⟨h'.agrees, v ++ w, hv.trans hw, hv'.trans hw'⟩

theorem Agrees.advance (h : Agrees r s s') {n : Nat} (hn : n ≤ s'.after.length) :
    Reaches r s s' (s.advance n) (s'.advance n) := by
  have htake : s.after.take n = s'.after.take n := by
    rw [h.after_eq, List.take_append_of_le_length hn]
  have hlength : n ≤ s.after.length := by
    rw [h.after_eq, List.length_append]
    omega
  refine ⟨⟨?_, h.groupTexts_eq⟩, _, .advance hlength, htake ▸ .advance hn⟩
  change s.after.drop n = s'.after.drop n ++ r
  rw [h.after_eq, List.drop_append_of_le_length hn]

theorem Reaches.record (h : Reaches r s s' t t') (number : Nat) :
    Reaches r s s' (s.record number t) (s'.record number t') := by
  obtain ⟨v, hv, hv'⟩ := h.takes
  refine ⟨⟨h.agrees.after_eq, ?_⟩, v, hv.record number, hv'.record number⟩
  have hgroups (s t : Cursor) (hv : s.Takes v t) :
      (s.record number t).groupTexts = (number, v) :: t.groupTexts := by
    simp [groupTexts, Cursor.record, Capture.text, hv.take_eq]
  rw [hgroups s t hv, hgroups s' t' hv', h.agrees.groupTexts_eq]

theorem group_eq (s : Cursor) (number : Nat) :
    s.group number = (s.groupTexts.find? fun g ↦ g.1 == number).map (·.2) := by
  rw [group, groupTexts, List.find?_map, Option.map_map]
  rfl

end Cursor

/-- Two matches of the same text, with the same groups. -/
structure Match.Same (m m' : Match) : Prop where
  text_eq : m.text = m'.text
  group_eq : ∀ number, m.group number = m'.group number

theorem Match.map_eq_of_same {α : Type} {f : Match → α} {ms ms' : List Match}
    (hf : ∀ m m', m.Same m' → f m = f m') (h : List.Forall₂ Match.Same ms ms') :
    ms.map f = ms'.map f := by
  induction h with
  | nil => rfl
  | cons hm _ ih => rw [List.map_cons, List.map_cons, hf _ _ hm, ih]

namespace Pattern

open Cursor

variable {p q : Pattern} {s s' t : Cursor} {r : Text}

/-- A pattern without conditions on its surroundings, and whose repetitions can be taken back. -/
def isPlain : Pattern → Bool
  | .empty => true
  | .one _ => true
  | .span preference _ _ _ => preference != .committed
  | .both p q => isPlain p && isPlain q
  | .either p q => isPlain p && isPlain q
  | .group _ p => isPlain p
  | .repeated .longest 0 (some 1) p => isPlain p
  | _ => false

theorem isPlain_inOrder {ps : List Pattern} : (inOrder ps).isPlain = ps.all isPlain := by
  induction ps with
  | nil => rfl
  | cons p ps ih =>
    cases ps with
    | nil => simp [inOrder]
    | cons q ps =>
      change (p.isPlain && (inOrder (q :: ps)).isPlain) = _
      rw [ih, List.all_cons (a := p)]

theorem isPlain_repeated {preference : Preference} {low : Nat} {high : Option Nat}
    (h : (repeated preference low high p).isPlain) :
    preference = .longest ∧ low = 0 ∧ high = some 1 ∧ p.isPlain := by
  unfold isPlain at h
  split at h
  all_goals simp_all

theorem ends_repeated_longest (high : Option Nat) (p : Pattern) (s : Cursor) :
    (repeated .longest 0 high p).ends s = furtherEnds .longest p.ends (turnBound 0 high s) s :=
  List.flatMap_singleton ..

theorem ends_optional (p : Pattern) (s : Cursor) :
    (repeated .longest 0 (some 1) p).ends s = p.ends s ++ [s] := by
  have hbound : turnBound 0 (some 1) s = 1 := by simp [turnBound]
  simp [ends, neededEnds, turnsEnds, hbound, furtherEnds]

theorem spanMost_append (pass : Char → Bool) (high : Option Nat) (u r : Text) :
    spanMost pass high u = min (spanMost pass high (u ++ r)) u.length := by
  induction u generalizing high with
  | nil => simp [spanMost]
  | cons c u ih =>
    rw [List.cons_append, spanMost, spanMost]
    split
    · rw [ih, List.length_cons, Nat.succ_min_succ]
    · simp

theorem filter_spanSizes {preference : Preference} (h : preference ≠ .committed)
    (low most n : Nat) :
    (spanSizes preference low most).filter (· ≤ n) = spanSizes preference low (min most n) := by
  have hrange : (List.range' low (most + 1 - low)).filter (· ≤ n) =
      List.range' low (min most n + 1 - low) := by
    have hsplit : most + 1 - low = (min most n + 1 - low) +
        (most + 1 - low - (min most n + 1 - low)) := by omega
    rw [hsplit, ← List.range'_append_1, List.filter_append, List.filter_eq_self.mpr,
      List.filter_eq_nil_iff.mpr, List.append_nil]
    · intro k hk
      simp only [List.mem_range'_1] at hk
      simp only [decide_eq_true_eq]
      omega
    · intro k hk
      simp only [List.mem_range'_1] at hk
      simp only [decide_eq_true_eq]
      omega
  cases preference with
  | longest => rw [spanSizes, spanSizes, List.filter_reverse, hrange]
  | shortest => exact hrange
  | committed => exact absurd rfl h

def within (r : Text) (t : Cursor) : Bool := r.length ≤ t.after.length

theorem within_of_agrees (h : Agrees r s s') : within r s = true := by
  simp [within, h.after_eq]

theorem filter_flatMap_within (p : Pattern) (l : List Cursor) :
    (l.flatMap p.ends).filter (within r) =
      (l.filter (within r)).flatMap fun t ↦ (p.ends t).filter (within r) := by
  rw [List.filter_flatMap]
  induction l with
  | nil => rfl
  | cons s l ih =>
    rw [List.flatMap_cons, ih]
    by_cases hs : within r s = true
    · rw [List.filter_cons_of_pos hs, List.flatMap_cons]
    · rw [List.filter_cons_of_neg hs, List.filter_eq_nil_iff.mpr, List.nil_append]
      intro t ht
      obtain ⟨v, hv⟩ := takes_of_mem_ends ht
      have hlength := congrArg List.length hv.after_eq
      simp only [within, decide_eq_true_eq, List.length_append] at hs hlength ⊢
      omega

theorem forall₂_ends (hp : p.isPlain) (h : Agrees r s s') :
    List.Forall₂ (Reaches r s s') ((p.ends s).filter (within r)) (p.ends s') := by
  induction p generalizing s s' with
  | empty =>
    rw [ends, ends, List.filter_cons_of_pos (within_of_agrees h)]
    exact .cons h.refl_reaches .nil
  | one set =>
    have hafter := h.after_eq
    cases hs' : s'.after with
    | nil =>
      rw [hs', List.nil_append] at hafter
      rw [List.filter_eq_nil_iff.mpr]
      · simp [ends, hs']
      · intro t ht
        obtain ⟨c, rest, hc, -, rfl⟩ := mem_ends_one.mp ht
        simp [within, Cursor.step, ← hafter, hc]
    | cons c rest =>
      rw [hs', List.cons_append] at hafter
      have hstep := h.advance (n := 1) (by simp [hs'])
      rw [ends, ends, hafter, hs']
      by_cases hc : set.holds c
      · simp only [hc, if_true, step_eq_advance hafter, step_eq_advance hs']
        rw [List.filter_cons_of_pos (within_of_agrees hstep.agrees)]
        exact .cons hstep .nil
      · simp [hc]
  | span preference low high set =>
    have hsizes : (spanSizes preference low (spanMost set.holds high s.after)).filter
        (within r ∘ s.advance) = spanSizes preference low (spanMost set.holds high s'.after) := by
      rw [spanMost_append set.holds high s'.after r, ← h.after_eq,
        ← filter_spanSizes (by simpa [isPlain] using hp)]
      refine List.filter_congr fun n hn ↦ ?_
      have hmost := spanMost_le set.holds high s.after
      have hn := (mem_spanSizes hn).2
      have hlength := congrArg List.length h.after_eq
      rw [List.length_append] at hlength
      simp only [Function.comp, within, Cursor.advance, List.length_drop, decide_eq_decide]
      omega
    rw [ends, ends, List.filter_map, hsizes, List.forall₂_map_left_iff, List.forall₂_map_right_iff,
      List.forall₂_same]
    intro n hn
    exact h.advance (Nat.le_trans (mem_spanSizes hn).2 (spanMost_le set.holds high s'.after))
  | both p q ihp ihq =>
    rw [isPlain, Bool.and_eq_true] at hp
    rw [ends, ends, filter_flatMap_within]
    exact List.rel_flatMap (ihp hp.1 h) fun t t' ht ↦ (ihq hp.2 ht.agrees).imp fun _ _ ↦ ht.trans
  | either p q ihp ihq =>
    rw [isPlain, Bool.and_eq_true] at hp
    rw [ends, ends, List.filter_append]
    exact List.rel_append (ihp hp.1 h) (ihq hp.2 h)
  | group number p ih =>
    rw [ends, ends, List.filter_map, List.forall₂_map_left_iff, List.forall₂_map_right_iff]
    exact (ih hp h).imp fun _ _ ht ↦ ht.record number
  | repeated preference low high p ih =>
    obtain ⟨rfl, rfl, rfl, hp⟩ := isPlain_repeated hp
    rw [ends_optional, ends_optional, List.filter_append,
      List.filter_cons_of_pos (within_of_agrees h)]
    exact List.rel_append (ih hp h) (.cons h.refl_reaches .nil)
  | _ => simp [isPlain] at hp

variable {m : Match} {size size' index index' : Nat} {before before' after u v : Text}
  {c : Char}

theorem matchAt_eq_none (h : p.matchAt false s = none) : p.ends s = [] := by
  rw [matchAt_false, Option.map_eq_none_iff, List.head?_eq_none_iff] at h
  exact h

theorem matchAt_none_of_agrees (hp : p.isPlain) (h : Agrees r s s')
    (hm : p.matchAt false s = none) : p.matchAt false s' = none := by
  have hends := forall₂_ends hp h
  rw [matchAt_eq_none hm, List.filter_nil, List.forall₂_nil_left_iff] at hends
  rw [matchAt_false, hends]
  rfl

theorem exists_matchAt_of_agrees (hp : p.isPlain) (h : Agrees r s s')
    (hm : p.matchAt false s = some m) (hstop : m.stop ≤ s.index + s'.after.length) :
    ∃ m', p.matchAt false s' = some m' ∧ m.Same m' := by
  rw [matchAt_false, Option.map_eq_some_iff] at hm
  obtain ⟨e, he, rfl⟩ := hm
  obtain ⟨es, hes⟩ := List.head?_eq_some_iff.mp he
  obtain ⟨v, hv⟩ := takes_of_mem_ends (hes ▸ List.mem_cons_self)
  have hwithin : within r e = true := by
    have hlength := congrArg List.length hv.after_eq
    rw [h.after_eq, List.length_append, List.length_append] at hlength
    simp only [Match.stop, hv.take_eq] at hstop
    simp only [within, decide_eq_true_eq]
    omega
  -- so the first way is also the first of those that end before `r`
  have hends := forall₂_ends hp h
  rw [hes, List.filter_cons_of_pos hwithin] at hends
  obtain ⟨e', es', hreaches, -, hends'⟩ := List.forall₂_cons_left_iff.mp hends
  obtain ⟨w, hw, hw'⟩ := hreaches.takes
  refine ⟨_, by rw [matchAt_false, hends']; rfl, ?_, fun number ↦ ?_⟩
  · exact hw.take_eq.trans hw'.take_eq.symm
  · change e.group number = e'.group number
    rw [group_eq, group_eq, hreaches.agrees.groupTexts_eq]

theorem findFrom_eq_nil {nonEmpty : Bool}
    (h : p.searchFrom size nonEmpty before index after = none) :
    p.findFrom size nonEmpty before index after = [] := by
  rw [findFrom.eq_def, h]

namespace Consumes

theorem findFrom_nil (hp : p.Consumes) (size : Nat) (nonEmpty : Bool) (before : List Char)
    (index : Nat) : p.findFrom size nonEmpty before index [] = [] := by
  rw [List.eq_nil_iff_forall_not_mem]
  intro m hm
  have hmatched := matchedFrom_of_mem_findFrom hm
  have hlt := hp.start_lt_stop hmatched
  have hle := hmatched.le_start
  have hstop := hmatched.stop_le
  rw [List.length_nil] at hstop
  omega

theorem findFrom_of_some (hp : p.Consumes) (nonEmpty : Bool)
    (hm : p.matchAt false ⟨size, index, before, after, []⟩ = some m) :
    ∃ rest, after = m.text ++ rest ∧ m.text ≠ [] ∧ m.start = index ∧
      p.findFrom size nonEmpty before index after =
        m :: p.findFrom size false (m.text.reverse ++ before) (index + m.text.length) rest := by
  obtain ⟨e, -, v, hv, rfl⟩ := matchAt_eq_some hm
  have hsearch : p.searchFrom size nonEmpty before index after = some ⟨index, v, e.groups⟩ := by
    rw [searchFrom.eq_def, hp.matchAt_eq nonEmpty, hm]
  obtain ⟨taken, rest, rfl, hstop, hne, hfind⟩ := hp.findFrom_eq hsearch
  have hlength : taken.length = v.length := by
    simp only [Match.stop] at hstop
    omega
  obtain ⟨rfl, -⟩ := List.append_inj hv.after_eq hlength
  exact ⟨rest, rfl, hne, rfl, hfind⟩

theorem findFrom_of_none (hp : p.Consumes) (nonEmpty : Bool)
    (hm : p.matchAt false ⟨size, index, before, c :: after, []⟩ = none) :
    p.findFrom size nonEmpty before index (c :: after) =
      p.findFrom size false (c :: before) (index + 1) after := by
  have hsearch : p.searchFrom size nonEmpty before index (c :: after) =
      p.searchFrom size false (c :: before) (index + 1) after := by
    rw [searchFrom.eq_def, hp.matchAt_eq nonEmpty, hm]
  cases hm' : p.searchFrom size false (c :: before) (index + 1) after with
  | none =>
    rw [hm'] at hsearch
    rw [findFrom_eq_nil hsearch, findFrom_eq_nil hm']
  | some m =>
    rw [hm'] at hsearch
    obtain ⟨taken, rest, hsplit, hstop, -, hfind⟩ := hp.findFrom_eq hsearch
    obtain ⟨taken', rest', rfl, hstop', -, hfind'⟩ := hp.findFrom_eq hm'
    rw [← List.cons_append] at hsplit
    obtain ⟨rfl, rfl⟩ := List.append_inj hsplit (by rw [List.length_cons]; omega)
    rw [hfind, hfind', List.length_cons, List.reverse_cons, List.append_assoc, Nat.add_assoc,
      Nat.add_comm 1]
    rfl

theorem findFrom_nonEmpty (hp : p.Consumes) (nonEmpty : Bool) (size : Nat) (before : List Char)
    (index : Nat) (after : List Char) :
    p.findFrom size nonEmpty before index after = p.findFrom size false before index after := by
  cases after with
  | nil => rw [hp.findFrom_nil, hp.findFrom_nil]
  | cons c after =>
    cases hm : p.matchAt false ⟨size, index, before, c :: after, []⟩ with
    | none => rw [hp.findFrom_of_none nonEmpty hm, hp.findFrom_of_none false hm]
    | some m =>
      obtain ⟨rest, hrest, -, -, hfind⟩ := hp.findFrom_of_some nonEmpty hm
      obtain ⟨rest', hrest', -, -, hfind'⟩ := hp.findFrom_of_some false hm
      rw [hfind, hfind', List.append_cancel_left (hrest.symm.trans hrest')]

theorem exists_findFrom_append (hc : p.Consumes) (hp : p.isPlain) (nonEmpty nonEmpty' : Bool)
    (h : ∀ m ∈ p.findFrom size nonEmpty before index (u ++ r),
      ¬ (m.start ≤ index + u.length ∧ index + u.length < m.stop)) :
    ∃ first, p.findFrom size nonEmpty before index (u ++ r) =
        first ++ p.findFrom size false (u.reverse ++ before) (index + u.length) r ∧
      List.Forall₂ Match.Same first (p.findFrom size' nonEmpty' before' index' u) := by
  induction hn : u.length using Nat.strongRecOn
    generalizing u nonEmpty nonEmpty' before before' index index' with
  | _ n ih =>
    subst hn
    cases u with
    | nil =>
      refine ⟨[], hc.findFrom_nonEmpty .., ?_⟩
      rw [hc.findFrom_nil]
      exact .nil
    | cons c u =>
      have hagrees : Agrees r ⟨size, index, before, c :: (u ++ r), []⟩
          ⟨size', index', before', c :: u, []⟩ := ⟨rfl, rfl⟩
      rw [List.cons_append] at h ⊢
      cases hm : p.matchAt false ⟨size, index, before, c :: (u ++ r), []⟩ with
      | none =>
        have hm' := matchAt_none_of_agrees hp hagrees hm
        rw [hc.findFrom_of_none nonEmpty hm] at h ⊢
        rw [hc.findFrom_of_none nonEmpty' hm']
        have hlength : index + (c :: u).length = index + 1 + u.length := by
          rw [List.length_cons]
          omega
        rw [hlength] at h ⊢
        obtain ⟨first, hfirst, hsame⟩ := ih u.length (Nat.lt_succ_self _) false false h rfl
        exact ⟨first, by rw [hfirst, List.reverse_cons, List.append_assoc]; rfl, hsame⟩
      | some m =>
        obtain ⟨rest, hrest, hne, hstart, hfind⟩ := hc.findFrom_of_some nonEmpty hm
        rw [hfind] at h ⊢
        obtain ⟨hhere, hlater⟩ := List.forall_mem_cons.mp h
        have hstop : m.stop ≤ index + (c :: u).length := by omega
        obtain ⟨m', hm', hsame⟩ := exists_matchAt_of_agrees hp hagrees hm hstop
        obtain ⟨u', hu', -, -, hfind'⟩ := hc.findFrom_of_some nonEmpty' hm'
        -- the match is the same alone, and so is what is left to be searched
        rw [← hsame.text_eq] at hu' hfind'
        obtain rfl : rest = u' ++ r := by
          rw [← List.cons_append, hu', List.append_assoc] at hrest
          exact (List.append_cancel_left hrest).symm
        have hpos := List.length_pos_iff.mpr hne
        have hlength : index + m.text.length + u'.length = index + (c :: u).length := by
          rw [hu', List.length_append, Nat.add_assoc]
        rw [← hlength] at hlater ⊢
        obtain ⟨first, hfirst, hsames⟩ := ih u'.length
          (by rw [hu', List.length_append]; omega) false false hlater rfl
        refine ⟨m :: first, ?_, hfind' ▸ .cons hsame hsames⟩
        rw [hfirst, hu', List.reverse_append, List.append_assoc, List.cons_append]

theorem forall₂_findFrom (hc : p.Consumes) (hp : p.isPlain) (nonEmpty nonEmpty' : Bool) :
    List.Forall₂ Match.Same (p.findFrom size nonEmpty before index u)
      (p.findFrom size' nonEmpty' before' index' u) := by
  have hall : ∀ m ∈ p.findFrom size nonEmpty before index (u ++ []),
      ¬ (m.start ≤ index + u.length ∧ index + u.length < m.stop) := by
    intro m hm
    have hstop := (matchedFrom_of_mem_findFrom hm).stop_le
    rw [List.append_nil] at hstop
    omega
  obtain ⟨first, hfirst, hsames⟩ := hc.exists_findFrom_append hp nonEmpty nonEmpty' hall
  rw [hc.findFrom_nil, List.append_nil, List.append_nil] at hfirst
  rw [hfirst]
  exact hsames

/-- A text can be cut at a character that is in no match. -/
theorem exists_findAll_cut (hc : p.Consumes) (hp : p.isPlain)
    (h : ∀ m ∈ p.findAll (u ++ c :: v), ¬ (m.start ≤ u.length ∧ u.length < m.stop)) :
    ∃ first last, p.findAll (u ++ c :: v) = first ++ last ∧
      List.Forall₂ Match.Same first (p.findAll u) ∧ List.Forall₂ Match.Same last (p.findAll v) := by
  have hfound : ∀ m ∈ p.findFrom (u ++ c :: v).length false [] 0 (u ++ c :: v),
      ¬ (m.start ≤ 0 + u.length ∧ 0 + u.length < m.stop) := by
    rw [Nat.zero_add]
    exact h
  obtain ⟨first, hfirst, hsames⟩ := hc.exists_findFrom_append hp false false hfound
  refine ⟨first, _, hfirst, hsames, ?_⟩
  cases hm : p.matchAt false ⟨(u ++ c :: v).length, 0 + u.length, u.reverse ++ [], c :: v, []⟩ with
  | some m =>
    obtain ⟨rest, hrest, hne, hstart, hfind⟩ := hc.findFrom_of_some false hm
    have hmem := hfound m (by rw [hfirst, hfind]; simp)
    have hpos := List.length_pos_iff.mpr hne
    rw [Match.stop] at hmem
    omega
  | none =>
    rw [hc.findFrom_of_none false hm]
    exact hc.forall₂_findFrom hp false false

theorem captures_cut (hc : p.Consumes) (hp : p.isPlain) (number : Nat)
    (h : ∀ m ∈ p.findAll (u ++ c :: v), ¬ (m.start ≤ u.length ∧ u.length < m.stop)) :
    p.captures number (u ++ c :: v) = p.captures number u ++ p.captures number v := by
  obtain ⟨first, last, hfind, hfirst, hlast⟩ := hc.exists_findAll_cut hp h
  have hgroup (m m' : Match) (hm : m.Same m') :
      (m.group number).getD [] = (m'.group number).getD [] := by rw [hm.group_eq]
  rw [captures, hfind, List.map_append, Match.map_eq_of_same hgroup hfirst,
    Match.map_eq_of_same hgroup hlast]
  rfl

end Consumes

theorem mem_text_of_around (hm : m ∈ p.findAll (u ++ c :: v)) (hstart : m.start ≤ u.length)
    (hstop : u.length < m.stop) : c ∈ m.text := by
  obtain ⟨x, y, e, hsplit, hx, -⟩ := isOf_of_mem_findAll hm
  rw [Match.stop, hx] at hstop
  exact Text.mem_of_between hsplit.symm (hx ▸ hstart) hstop

/-- No way through the pattern takes the character. -/
def avoids (c : Char) : Pattern → Bool
  | .empty => true
  | .one set => !set.holds c
  | .span _ _ _ set => !set.holds c
  | .both p q => avoids c p && avoids c q
  | .either p q => avoids c p && avoids c q
  | .group _ p => avoids c p
  | .repeated _ _ _ p => avoids c p
  | _ => false

theorem avoids_inOrder {ps : List Pattern} : (inOrder ps).avoids c = ps.all (avoids c) := by
  induction ps with
  | nil => rfl
  | cons p ps ih =>
    cases ps with
    | nil => simp [inOrder]
    | cons q ps =>
      change (p.avoids c && (inOrder (q :: ps)).avoids c) = _
      rw [ih, List.all_cons (a := p)]

theorem exists_takes_of_avoids (hp : p.avoids c) (h : t ∈ p.ends s) :
    ∃ v, s.Takes v t ∧ c ∉ v := by
  have hnot {set : CharSet} {v : Text} (hset : (!set.holds c) = true)
      (hv : ∀ d ∈ v, set.holds d) : c ∉ v := by
    intro hmem
    rw [hv c hmem] at hset
    cases hset
  induction p generalizing s t with
  | empty =>
    cases List.mem_singleton.mp h
    exact ⟨[], .refl _, by simp⟩
  | one set =>
    obtain ⟨d, rest, hs, hd, rfl⟩ := mem_ends_one.mp h
    exact ⟨[d], .step hs, hnot hp (by simpa using hd)⟩
  | span preference low high set =>
    obtain ⟨n, -, hn, rfl, hpass⟩ := mem_ends_span h
    exact ⟨_, .advance hn, hnot hp hpass⟩
  | both p q ihp ihq =>
    rw [avoids, Bool.and_eq_true] at hp
    obtain ⟨u, hu, ht⟩ := List.mem_flatMap.mp h
    obtain ⟨v, hv, hcv⟩ := ihp hp.1 hu
    obtain ⟨w, hw, hcw⟩ := ihq hp.2 ht
    exact ⟨v ++ w, hv.trans hw, by simp [hcv, hcw]⟩
  | either p q ihp ihq =>
    rw [avoids, Bool.and_eq_true] at hp
    exact (List.mem_append.mp h).elim (ihp hp.1) (ihq hp.2)
  | group number p ih =>
    obtain ⟨u, hu, rfl⟩ := List.mem_map.mp h
    obtain ⟨v, hv, hcv⟩ := ih hp hu
    exact ⟨v, hv.record number, hcv⟩
  | repeated preference low high p ih =>
    have ht := turns_of_mem_ends h
    clear h
    induction ht with
    | refl => exact ⟨[], .refl _, by simp⟩
    | tail _ hu iht =>
      obtain ⟨v, hv, hcv⟩ := iht
      obtain ⟨w, hw, hcw⟩ := ih hp hu
      exact ⟨v ++ w, hv.trans hw, by simp [hcv, hcw]⟩
  | _ => simp [avoids] at hp

theorem notMem_text_of_avoids (hp : p.avoids c) (h : m ∈ p.findAll u) : c ∉ m.text := by
  obtain ⟨x, y, e, -, -, -, he, htakes⟩ := isOf_of_mem_findAll h
  obtain ⟨v, hv, hcv⟩ := exists_takes_of_avoids hp he
  rwa [← htakes.take_eq, hv.take_eq]

end Pattern

end SasMigration
