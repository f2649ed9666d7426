import SasMigration.Pattern.Reader
import Mathlib.Data.List.Basic
import Mathlib.Tactic.Common

namespace SasMigration

/-- The source when `w` has been read of it and `r` is left. -/
def PatternSource.past (s : PatternSource) (w r : Text) : PatternSource :=
  { s with rest := r, position := s.position + w.length }

theorem PatternSource.past_past (s : PatternSource) (w w' r r' : Text) :
    (s.past w r).past w' r' = s.past (w ++ w') r' := by
  simp only [past, List.length_append, Nat.add_assoc]

namespace ReadPattern

variable {s : PatternSource} {c : Char} {r : Text}

theorem run_bind_of_ok {α β : Type} {x : ReadPattern α} {f : α → ReadPattern β} {a : α}
    {s' : PatternSource} (h : x.run s = .ok (a, s')) : (x >>= f).run s = (f a).run s' := by
  rw [StateT.run_bind, h]
  rfl

theorem run_get_bind {β : Type} {f : PatternSource → ReadPattern β} :
    (get >>= f).run s = (f s).run s := rfl

theorem run_modify_bind {β : Type} {f : PatternSource → PatternSource}
    {g : PUnit → ReadPattern β} : (modify f >>= g).run s = (g ⟨⟩).run (f s) := rfl

/-! Tokens -/

theorem peek_char (h : s.rest = c :: r) (hc : c ≠ '\\') :
    peek.run s = .ok (some (.char c), s) := by
  obtain ⟨rest⟩ := s
  subst h
  rw [peek, run_get_bind]
  split
  · next he => cases he
  · next he => exact absurd (List.cons.inj he).1 hc
  · next he =>
    cases he
    rfl

theorem peek_escape (h : s.rest = '\\' :: c :: r) : peek.run s = .ok (some (.escape c), s) := by
  obtain ⟨rest⟩ := s
  subst h
  rfl

theorem next_of_peek {token : PatternToken} (h : peek.run s = .ok (some token, s))
    (hs : s.rest = token.text ++ r) (hr : r ≠ ['\\']) :
    next.run s = .ok (some token, s.past token.text r) := by
  have hdrop : s.rest.drop token.text.length = r := by rw [hs, List.drop_left]
  rw [next, run_bind_of_ok h]
  change StateT.run (do
      if s.rest.drop token.text.length = ['\\'] then fail .danglingBackslash 0
      return some token) { s with
        rest := s.rest.drop token.text.length
        position := s.position + token.text.length } = _
  rw [hdrop, if_neg hr]
  rfl

theorem next_char (h : s.rest = c :: r) (hc : c ≠ '\\') (hr : r ≠ ['\\']) :
    next.run s = .ok (some (.char c), s.past [c] r) := next_of_peek (peek_char h hc) h hr

theorem next_escape (h : s.rest = '\\' :: c :: r) (hr : r ≠ ['\\']) :
    next.run s = .ok (some (.escape c), s.past ['\\', c] r) := next_of_peek (peek_escape h) h hr

theorem eat_char (h : s.rest = c :: r) (hc : c ≠ '\\') (hr : r ≠ ['\\']) :
    (eat c).run s = .ok (true, s.past [c] r) := by
  rw [eat, run_bind_of_ok (peek_char h hc), if_pos rfl, run_bind_of_ok (next_char h hc hr)]
  rfl

theorem eat_other {d : Char} (hd : d ≠ '\\') (h : s.rest.head? ≠ some d) :
    (eat d).run s = .ok (false, s) := by
  obtain ⟨rest⟩ := s
  match rest, h with
  | [], _ => rfl
  | c :: r, h =>
    by_cases hc : c = '\\'
    · subst hc
      cases r with
      | nil =>
        have hpeek : some (PatternToken.char '\\') ≠ some (.char d) := by simpa using hd.symm
        change StateT.run (if some (PatternToken.char '\\') = some (.char d) then _ else _) _ = _
        rw [if_neg hpeek]
        rfl
      | cons e r => rfl
    · have hpeek : some (PatternToken.char c) ≠ some (.char d) := by simpa using h
      rw [eat, run_bind_of_ok (peek_char rfl hc), if_neg hpeek]
      rfl

/-! Steps -/

/-- The characters that do not stand for themselves outside of brackets. -/
def special : List Char := ['\\', '|', ')', '[', '?', '*', '+', Char.ofNat 123, '.', '^', '$', '(']

def quantifiers : List (Char × Nat × Option Nat) :=
  [('?', 0, some 1), ('*', 0, none), ('+', 1, none)]

variable {flags : PatternFlags} {place : SequencePlace} {items : List PatternItem} {n : Nat}

theorem readSequence_char (h : s.rest = c :: r) (hc : c ∉ special) (hr : r ≠ ['\\'])
    (hplace : place.verbose = false) :
    (readSequence (n + 1) flags place items).run s =
      (readSequence n flags place (single (.letter c flags.letterCase) :: items)).run
        (s.past [c] r) := by
  simp only [special, List.mem_cons, List.not_mem_nil, or_false, not_or] at hc
  obtain ⟨h1, h2, h3, h4, h5, h6, h7, h8, h9, h10, h11, h12⟩ := hc
  rw [readSequence, run_bind_of_ok (peek_char h h1)]
  split
  · next he => cases he
  · next he => cases he; exact absurd rfl h2
  · next he => cases he; exact absurd rfl h3
  · next token _ _ he =>
    obtain rfl := Option.some.inj he
    rw [run_get_bind, run_bind_of_ok (next_char h h1 hr)]
    simp only [hplace, Bool.false_and, Bool.false_eq_true, if_false, h4, h5, h6, h7, h8, h9, h10,
      h11, h12]

theorem readSequence_escape {item : PatternItem} (h : s.rest = '\\' :: c :: r) (hr : r ≠ ['\\'])
    (hitem : escape flags c = pure item) :
    (readSequence (n + 1) flags place items).run s =
      (readSequence n flags place (item :: items)).run (s.past ['\\', c] r) := by
  rw [readSequence, run_bind_of_ok (peek_escape h)]
  change StateT.run (get >>= _) s = _
  rw [run_get_bind, run_bind_of_ok (next_escape h hr)]
  dsimp only
  rw [hitem]
  rfl

theorem readSequence_quantifier {low : Nat} {high : Option Nat} (h : s.rest = c :: r)
    (hc : (c, low, high) ∈ quantifiers) (hr : r ≠ ['\\']) (hplace : place.verbose = false) :
    (readSequence (n + 1) flags place items).run s =
      (repeatLast items s.position low high >>= readSequence n flags place).run (s.past [c] r) := by
  simp only [quantifiers, List.mem_cons, List.not_mem_nil, or_false, Prod.mk.injEq] at hc
  rcases hc with ⟨rfl, rfl, rfl⟩ | ⟨rfl, rfl, rfl⟩ | ⟨rfl, rfl, rfl⟩
  all_goals
    rw [readSequence, run_bind_of_ok (peek_char h (by decide))]
    change StateT.run (get >>= _) s = _
    rw [run_get_bind, run_bind_of_ok (next_char h (by decide) hr)]
    simp only [hplace, Bool.false_and, Bool.false_eq_true, if_false]
    rfl

theorem readSequence_dot (h : s.rest = '.' :: r) (hr : r ≠ ['\\'])
    (hplace : place.verbose = false) :
    (readSequence (n + 1) flags place items).run s =
      (readSequence n flags place
        (single (if flags.dotAll then .all else .notNewline) :: items)).run (s.past ['.'] r) := by
  rw [readSequence, run_bind_of_ok (peek_char h (by decide))]
  change StateT.run (get >>= _) s = _
  rw [run_get_bind, run_bind_of_ok (next_char h (by decide) hr)]
  simp only [hplace, Bool.false_and, Bool.false_eq_true, if_false]
  rfl

theorem readClass_word {start : Nat} {ascii : Bool} (h : s.rest = '\\' :: 'w' :: ']' :: r)
    (hr : r ≠ ['\\']) :
    (readClass ascii start (s.rest.length + 1) []).run s =
      .ok ([.kind .word ascii false], s.past ['\\', 'w', ']'] r) := by
  have hmember (s : PatternSource) :
      (classMember ascii (.escape 'w')).run s = .ok (.kind .word ascii false, s) := rfl
  rw [readClass, run_bind_of_ok (next_escape h (by simp))]
  dsimp only
  rw [if_neg (by simp), run_bind_of_ok (hmember _),
    run_bind_of_ok (eat_other (by decide) (by simp [PatternSource.past])), if_neg (by simp), h,
    List.length_cons, readClass, run_bind_of_ok (next_char rfl (by decide) hr),
    PatternSource.past_past]
  rfl

theorem readSequence_wordClass (h : s.rest = '[' :: '\\' :: 'w' :: ']' :: r) (hr : r ≠ ['\\'])
    (hplace : place.verbose = false) :
    (readSequence (n + 1) flags place items).run s =
      (readSequence n flags place
        (single (.ofItems false flags.letterCase [.kind .word flags.ascii false]) :: items)).run
        (s.past ['[', '\\', 'w', ']'] r) := by
  rw [readSequence, run_bind_of_ok (peek_char h (by decide))]
  change StateT.run (get >>= _) s = _
  rw [run_get_bind, run_bind_of_ok (next_char h (by decide) (by simp))]
  simp only [hplace, Bool.false_and, Bool.false_eq_true, if_false]
  change StateT.run (eat '^' >>= _) _ = _
  rw [run_bind_of_ok (eat_other (by decide) (by simp [PatternSource.past])), run_get_bind,
    run_bind_of_ok (readClass_word rfl hr), PatternSource.past_past]
  rfl

theorem readSequence_close (h : r = [] ∨ r.head? = some ')') (hs : s.rest = r) :
    (readSequence (n + 1) flags place items).run s = .ok (sequence items, s) := by
  obtain ⟨rest⟩ := s
  subst hs
  match rest, h with
  | [], _ => rfl
  | c :: r, h =>
    obtain rfl : c = ')' := by simpa using h
    rw [readSequence, run_bind_of_ok (peek_char rfl (by decide))]
    rfl

theorem readSequence_plain (h : s.rest = '(' :: '?' :: ':' :: r) (hr : r ≠ ['\\'])
    (hplace : place.verbose = false) :
    (readSequence (n + 1) flags place items).run s = (do
      let body ← readAlternatives n flags false (place.depth + 2) []
      expectClose s.position
      readSequence n flags place ({ body with role := .other } :: items)).run
        (s.past ['(', '?', ':'] r) := by
  have hhead : (readHead s.position).run (s.past ['('] ('?' :: ':' :: r)) =
      .ok (.plain [] [], s.past ['(', '?', ':'] r) := by
    rw [readHead, run_bind_of_ok (eat_char rfl (by decide) (by simp))]
    change StateT.run (next >>= _) _ = _
    rw [run_bind_of_ok (next_char rfl (by decide) hr), PatternSource.past_past,
      PatternSource.past_past]
    rfl
  have hflags : (flags.add (FlagLetter.flags [])).remove (FlagLetter.flags []) = flags := by
    simp [PatternFlags.add, PatternFlags.remove, FlagLetter.flags]
  rw [readSequence, run_bind_of_ok (peek_char h (by decide))]
  change StateT.run (get >>= _) s = _
  rw [run_get_bind, run_bind_of_ok (next_char h (by decide) (by simp))]
  simp only [hplace, Bool.false_and, Bool.false_eq_true, if_false]
  change StateT.run (readHead s.position >>= _) _ = _
  rw [run_bind_of_ok hhead]
  change StateT.run (readAlternatives n ((flags.add _).remove _) false _ [] >>= _) _ = _
  rw [hflags]

theorem readSequence_capture (h : s.rest = '(' :: r) (hr : r ≠ ['\\'])
    (hhead : r.head? ≠ some '?') (hplace : place.verbose = false) :
    (readSequence (n + 1) flags place items).run s = (do
      let body ← readAlternatives n flags false (place.depth + 2) []
      expectClose s.position
      modify fun s' : PatternSource ↦ { s' with widths := (s.groups, body.width) :: s'.widths }
      readSequence n flags place
        (⟨.group s.groups body.pattern, .other, body.width, body.fault⟩ :: items)).run
        { s.past ['('] r with groups := s.groups + 1 } := by
  have hread : (readHead s.position).run (s.past ['('] r) =
      .ok (.capture none, s.past ['('] r) := by
    rw [readHead, run_bind_of_ok (eat_other (by decide) hhead)]
    rfl
  rw [readSequence, run_bind_of_ok (peek_char h (by decide))]
  change StateT.run (get >>= _) s = _
  rw [run_get_bind, run_bind_of_ok (next_char h (by decide) hr)]
  simp only [hplace, Bool.false_and, Bool.false_eq_true, if_false]
  change StateT.run (readHead s.position >>= _) _ = _
  rw [run_bind_of_ok hread]
  rfl

end ReadPattern

end SasMigration
