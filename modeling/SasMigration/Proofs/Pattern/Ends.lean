import Mathlib.Data.List.Basic
import Mathlib.Tactic.Common
import SasMigration.Pattern.Matching

namespace SasMigration

namespace Cursor

def advance (s : Cursor) (n : Nat) : Cursor :=
  { s with
    index := s.index + n
    before := (s.after.take n).reverse ++ s.before
    after := s.after.drop n }

theorem advance_zero (s : Cursor) : s.advance 0 = s := by simp [advance]

theorem step_eq_advance {s : Cursor} {c : Char} {rest : List Char} (h : s.after = c :: rest) :
    s.step c rest = s.advance 1 := by simp [step, advance, h]

theorem advance_advance (s : Cursor) (m n : Nat) :
    (s.advance m).advance n = s.advance (m + n) := by
  simp [advance, List.take_add, Nat.add_assoc]

end Cursor

namespace Pattern

variable {pass : Char → Bool} {k : Accept} {s t : Cursor}

theorem findSome?_flatMap {α β γ : Type} (f : α → List β) (g : β → Option γ) (l : List α) :
    (l.flatMap f).findSome? g = l.findSome? fun a ↦ (f a).findSome? g := by
  induction l with
  | nil => rfl
  | cons a l ih =>
    rw [List.flatMap_cons, List.findSome?_append, ih, List.findSome?_cons]
    cases (f a).findSome? g <;> rfl

def spanMost (pass : Char → Bool) : Option Nat → List Char → Nat
  | _, [] => 0
  | high, c :: rest =>
    if high ≠ some 0 ∧ pass c then spanMost pass (high.map (· - 1)) rest + 1 else 0

def spanSizes (preference : Preference) (low most : Nat) : List Nat :=
  match preference with
  | .longest => (List.range' low (most + 1 - low)).reverse
  | .shortest => List.range' low (most + 1 - low)
  | .committed => if low ≤ most then [most] else []

def sizeZero (low : Nat) : List Nat := if low = 0 then [0] else []

theorem spanSizes_zero (preference : Preference) (low : Nat) :
    spanSizes preference low 0 = sizeZero low := by
  cases low with
  | zero => cases preference <;> rfl
  | succ low => cases preference <;> simp [spanSizes, sizeZero]

theorem range'_succ_most (low most : Nat) :
    List.range' low (most + 2 - low) =
      sizeZero low ++ (List.range' (low - 1) (most + 1 - (low - 1))).map (1 + ·) := by
  rw [List.map_add_range']
  cases low with
  | zero =>
    rw [Nat.sub_zero, Nat.zero_sub, Nat.sub_zero, List.range'_succ]
    rfl
  | succ low =>
    have h : most + 2 - (low + 1) = most + 1 - low := by omega
    rw [h, Nat.add_sub_cancel, Nat.add_comm 1 low]
    rfl

theorem mem_spanSizes {preference : Preference} {low most n : Nat}
    (h : n ∈ spanSizes preference low most) : low ≤ n ∧ n ≤ most := by
  cases preference with
  | longest =>
    simp only [spanSizes, List.mem_reverse, List.mem_range'_1] at h
    omega
  | shortest =>
    simp only [spanSizes, List.mem_range'_1] at h
    omega
  | committed =>
    simp only [spanSizes] at h
    split at h
    · rw [List.mem_singleton] at h
      omega
    · simp at h

theorem findSome?_sizeZero (low : Nat) :
    ((sizeZero low).map s.advance).findSome? k = if low = 0 then k s else none := by
  unfold sizeZero
  split
  · rw [List.map_singleton, List.findSome?_singleton, Cursor.advance_zero]
  · rfl

theorem map_advance_succ {c : Char} {rest : List Char} (h : s.after = c :: rest) (l : List Nat) :
    (l.map (1 + ·)).map s.advance = l.map (s.step c rest).advance := by
  rw [List.map_map, Cursor.step_eq_advance h]
  apply List.map_congr_left
  intro n _
  exact (Cursor.advance_advance s 1 n).symm

theorem spanLongest_eq {cs : List Char} (low : Nat) (high : Option Nat) (h : s.after = cs) :
    spanLongest pass k low high cs s =
      ((spanSizes .longest low (spanMost pass high cs)).map s.advance).findSome? k := by
  induction cs generalizing low high s with
  | nil => rw [spanMost, spanSizes_zero, findSome?_sizeZero, spanLongest]
  | cons c rest ih =>
    rw [spanLongest, spanMost]
    split
    · have hs (most : Nat) : spanSizes .longest low (most + 1) =
          (spanSizes .longest (low - 1) most).map (1 + ·) ++ sizeZero low := by
        have hz : (sizeZero low).reverse = sizeZero low := by unfold sizeZero; split <;> rfl
        rw [spanSizes, spanSizes, range'_succ_most, List.reverse_append, List.map_reverse, hz]
      rw [ih (low - 1) (high.map (· - 1)) rfl, hs, List.map_append, List.findSome?_append,
        map_advance_succ h, findSome?_sizeZero]
      generalize List.findSome? k _ = e
      cases e <;> rfl
    · rw [spanSizes_zero, findSome?_sizeZero]

theorem spanShortest_eq {cs : List Char} (low : Nat) (high : Option Nat) (h : s.after = cs) :
    spanShortest pass k low high cs s =
      ((spanSizes .shortest low (spanMost pass high cs)).map s.advance).findSome? k := by
  induction cs generalizing low high s with
  | nil => rw [spanMost, spanSizes_zero, findSome?_sizeZero, spanShortest]
  | cons c rest ih =>
    rw [spanShortest, spanMost]
    by_cases hc : high ≠ some 0 ∧ pass c
    · have hs (most : Nat) : spanSizes .shortest low (most + 1) =
          sizeZero low ++ (spanSizes .shortest (low - 1) most).map (1 + ·) := by
        rw [spanSizes, spanSizes, range'_succ_most]
      rw [if_pos hc, if_pos hc, ih (low - 1) (high.map (· - 1)) rfl, hs, List.map_append,
        List.findSome?_append, map_advance_succ h, findSome?_sizeZero]
      generalize (if low = 0 then k s else none) = e
      cases e <;> rfl
    · rw [if_neg hc, if_neg hc, spanSizes_zero, findSome?_sizeZero]
      generalize (if low = 0 then k s else none) = e
      cases e <;> rfl

theorem spanCommitted_eq {cs : List Char} (low : Nat) (high : Option Nat) (h : s.after = cs) :
    spanCommitted pass k low high cs s =
      ((spanSizes .committed low (spanMost pass high cs)).map s.advance).findSome? k := by
  induction cs generalizing low high s with
  | nil => rw [spanMost, spanSizes_zero, findSome?_sizeZero, spanCommitted]
  | cons c rest ih =>
    rw [spanCommitted, spanMost]
    split
    · have hs (most : Nat) : spanSizes .committed low (most + 1) =
          (spanSizes .committed (low - 1) most).map (1 + ·) := by
        have hl : low ≤ most + 1 ↔ low - 1 ≤ most := by omega
        simp only [spanSizes, hl]
        split
        · rw [List.map_singleton, Nat.add_comm]
        · rfl
      rw [ih (low - 1) (high.map (· - 1)) rfl, hs, map_advance_succ h]
    · rw [spanSizes_zero, findSome?_sizeZero]

def turnsEnds (body : Cursor → List Cursor) : Nat → Cursor → List Cursor
  | 0, s => [s]
  | n + 1, s => (body s).flatMap (turnsEnds body n)

/-- The ends of up to `n` turns of a body; a turn that consumes nothing is the last. -/
def furtherEnds (preference : Preference) (body : Cursor → List Cursor) :
    Nat → Cursor → List Cursor
  | 0, s => [s]
  | n + 1, s =>
    let more (t : Cursor) := if t.index = s.index then [t] else furtherEnds preference body n t
    match preference with
    | .longest => (body s).flatMap more ++ [s]
    | .shortest => s :: (body s).flatMap more
    | .committed =>
      match (body s).head? with
      | some t => more t
      | none => [s]

/-- The ends of the turns that have to be made. Committed ones are not taken back. -/
def neededEnds (preference : Preference) (body : Cursor → List Cursor) (n : Nat) (s : Cursor) :
    List Cursor :=
  match preference with
  | .committed => turnsEnds (fun t ↦ (body t).take 1) n s
  | _ => turnsEnds body n s

/-- The ends of all ways through a pattern from `s`, the preferred ones first. -/
def ends : Pattern → Cursor → List Cursor
  | .empty, s => [s]
  | .one set, s =>
    match s.after with
    | [] => []
    | c :: rest => if set.holds c then [s.step c rest] else []
  | .span preference low high set, s =>
    (spanSizes preference low (spanMost set.holds high s.after)).map s.advance
  | .both p q, s => (ends p s).flatMap fun t ↦ ends q t
  | .either p q, s => ends p s ++ ends q s
  | .group number p, s => (ends p s).map (s.record number)
  | .repeated preference low high p, s =>
    (neededEnds preference (fun t ↦ ends p t) low s).flatMap fun t ↦
      furtherEnds preference (fun t ↦ ends p t) (turnBound low high t) t
  | .atomic p, s => (ends p s).take 1
  | .ahead wanted p, s =>
    match (ends p s).head? with
    | some t => if wanted then [{ s with groups := t.groups }] else []
    | none => if wanted then [] else [s]
  | .behind wanted width p, s =>
    match if s.index < width then none else (ends p (s.back width)).head? with
    | some t => if wanted then [{ s with groups := t.groups }] else []
    | none => if wanted then [] else [s]
  | .again number letterCase, s =>
    match s.group number with
    | some t => (passOver letterCase t s).toList
    | none => []
  | .ifGroup number p q, s => if (s.group number).isSome then ends p s else ends q s
  | .anchor a, s => if a.holds s then [s] else []

theorem findSome?_some (l : List Cursor) : l.findSome? some = l.head? := by
  cases l <;> rfl

theorem findSome?_take_one (l : List Cursor) : (l.take 1).findSome? k = l.head?.bind k := by
  cases l <;> simp

variable {body : Accept → Accept} {bodyEnds : Cursor → List Cursor}

theorem turns_eq (hb : ∀ k s, body k s = (bodyEnds s).findSome? k) (k : Accept) (n : Nat)
    (s : Cursor) : turns body k n s = (turnsEnds bodyEnds n s).findSome? k := by
  induction n generalizing s with
  | zero => simp [turns, turnsEnds]
  | succ n ih =>
    have hk : turns body k n = fun t ↦ (turnsEnds bodyEnds n t).findSome? k := funext ih
    rw [turns, turnsEnds, hb, hk, findSome?_flatMap]

theorem further_turn_eq (preference : Preference) (n : Nat) (further : Accept)
    (hf : ∀ t, further t = (furtherEnds preference bodyEnds n t).findSome? k) (t : Cursor) :
    (if t.index = s.index then k t else further t) =
      (if t.index = s.index then [t] else furtherEnds preference bodyEnds n t).findSome? k := by
  split
  · rw [List.findSome?_singleton]
  · exact hf t

theorem turnsLongest_eq (hb : ∀ k s, body k s = (bodyEnds s).findSome? k) (k : Accept) (n : Nat)
    (s : Cursor) :
    turnsLongest body k n s = (furtherEnds .longest bodyEnds n s).findSome? k := by
  induction n generalizing s with
  | zero => simp [turnsLongest, furtherEnds]
  | succ n ih =>
    rw [turnsLongest, furtherEnds, hb, List.findSome?_append, findSome?_flatMap,
      List.findSome?_singleton]
    simp only [further_turn_eq .longest n _ ih]
    generalize List.findSome? _ _ = e
    cases e <;> rfl

theorem turnsShortest_eq (hb : ∀ k s, body k s = (bodyEnds s).findSome? k) (k : Accept) (n : Nat)
    (s : Cursor) :
    turnsShortest body k n s = (furtherEnds .shortest bodyEnds n s).findSome? k := by
  induction n generalizing s with
  | zero => simp [turnsShortest, furtherEnds]
  | succ n ih =>
    rw [turnsShortest, furtherEnds, hb, List.findSome?_cons, findSome?_flatMap]
    simp only [further_turn_eq .shortest n _ ih]
    cases k s <;> rfl

theorem turnsCommitted_eq (hb : ∀ k s, body k s = (bodyEnds s).findSome? k) (k : Accept) (n : Nat)
    (s : Cursor) :
    turnsCommitted body k n s = (furtherEnds .committed bodyEnds n s).findSome? k := by
  induction n generalizing s with
  | zero => simp [turnsCommitted, furtherEnds]
  | succ n ih =>
    rw [turnsCommitted, furtherEnds, hb, findSome?_some]
    cases (bodyEnds s).head? with
    | none => rw [List.findSome?_singleton]
    | some t => exact further_turn_eq .committed n _ ih t

/-- Matching with a continuation gives the first end that the continuation accepts. -/
theorem run_eq (p : Pattern) (k : Accept) (s : Cursor) : p.run k s = (p.ends s).findSome? k := by
  induction p generalizing k s with
  | empty => rw [run, ends, List.findSome?_singleton]
  | one set =>
    rw [run, ends]
    cases s.after with
    | nil => rfl
    | cons c rest => cases h : set.holds c <;> simp [h]
  | span preference low high set =>
    cases preference with
    | longest => rw [run, ends, spanLongest_eq low high rfl]
    | shortest => rw [run, ends, spanShortest_eq low high rfl]
    | committed => rw [run, ends, spanCommitted_eq low high rfl]
  | both p q ihp ihq => simp only [run, ends, ihp, ihq, findSome?_flatMap]
  | either p q ihp ihq =>
    rw [run, ends, ihp, ihq, List.findSome?_append]
    cases (p.ends s).findSome? k <;> rfl
  | group number p ih =>
    rw [run, ends, ih, List.findSome?_map]
    rfl
  | repeated preference low high p ih =>
    cases preference with
    | longest =>
      simp only [run, ends, neededEnds, turns_eq ih, turnsLongest_eq ih, findSome?_flatMap]
    | shortest =>
      simp only [run, ends, neededEnds, turns_eq ih, turnsShortest_eq ih, findSome?_flatMap]
    | committed =>
      have hb (k : Accept) (s : Cursor) :
          (p.run some s).bind k = ((p.ends s).take 1).findSome? k := by
        rw [ih, findSome?_some, findSome?_take_one]
      simp only [run, ends, neededEnds, turns_eq hb, turnsCommitted_eq ih, findSome?_flatMap]
  | atomic p ih => rw [run, ends, ih, findSome?_some, findSome?_take_one]
  | ahead wanted p ih =>
    rw [run, ends, ih, findSome?_some]
    cases (p.ends s).head? <;> cases wanted <;> simp
  | behind wanted width p ih =>
    rw [run, ends, ih, findSome?_some]
    generalize (if s.index < width then none else (p.ends (s.back width)).head?) = e
    cases e <;> cases wanted <;> simp
  | again number letterCase =>
    rw [run, ends]
    cases s.group number with
    | none => rfl
    | some t => cases h : passOver letterCase t s <;> simp [h]
  | ifGroup number p q ihp ihq =>
    rw [run, ends, ihp, ihq]
    split <;> rfl
  | anchor a =>
    rw [run, ends]
    split <;> simp

end Pattern

end SasMigration
