import SasMigration.Pattern.Basic

namespace SasMigration

/-- What a group took: the first characters of the text from its beginning on. -/
structure Capture where
  source : List Char
  size : Nat
deriving DecidableEq, Repr

namespace Capture

def text (c : Capture) : Text := c.source.take c.size

end Capture

/-- A place in a text of `size` characters, with the text before it reversed, and the groups
recorded on the way. -/
structure Cursor where
  size : Nat
  index : Nat
  before : List Char
  after : List Char
  groups : List (Nat × Capture)
deriving DecidableEq, Repr

namespace Cursor

def start (t : Text) : Cursor := ⟨t.length, 0, [], t, []⟩

def step (s : Cursor) (c : Char) (rest : List Char) : Cursor :=
  { s with index := s.index + 1, before := c :: s.before, after := rest }

def group (s : Cursor) (number : Nat) : Option Text :=
  (s.groups.find? fun g ↦ g.1 == number).map (·.2.text)

def record (s : Cursor) (number : Nat) (t : Cursor) : Cursor :=
  { t with groups := (number, ⟨s.after, t.index - s.index⟩) :: t.groups }

def back (s : Cursor) (width : Nat) : Cursor :=
  { s with
    index := s.index - width
    before := s.before.drop width
    after := (s.before.take width).reverse ++ s.after }

end Cursor

abbrev Accept := Cursor → Option Cursor

namespace Anchor

def isWordAt (ascii : Bool) : List Char → Bool
  | [] => false
  | c :: _ => CharKind.word.holds ascii c

def holds (a : Anchor) (s : Cursor) : Bool :=
  match a with
  | .textStart => s.before.isEmpty
  | .lineStart => s.before.isEmpty || s.before.head? == some '\n'
  | .textEnd => s.after.isEmpty
  | .finalLineEnd => s.after.isEmpty || s.after == ['\n']
  | .lineEnd => s.after.isEmpty || s.after.head? == some '\n'
  | .wordEdge ascii => isWordAt ascii s.before != isWordAt ascii s.after
  | .notWordEdge ascii =>
    !(s.before.isEmpty && s.after.isEmpty) && isWordAt ascii s.before == isWordAt ascii s.after

end Anchor

namespace Pattern

def spanLongest (pass : Char → Bool) (k : Accept) :
    Nat → Option Nat → List Char → Cursor → Option Cursor
  | low, _, [], s => if low = 0 then k s else none
  | low, high, c :: rest, s =>
    if high ≠ some 0 ∧ pass c then
      match spanLongest pass k (low - 1) (high.map (· - 1)) rest (s.step c rest) with
      | some e => some e
      | none => if low = 0 then k s else none
    else if low = 0 then k s else none

def spanShortest (pass : Char → Bool) (k : Accept) :
    Nat → Option Nat → List Char → Cursor → Option Cursor
  | low, _, [], s => if low = 0 then k s else none
  | low, high, c :: rest, s =>
    match if low = 0 then k s else none with
    | some e => some e
    | none =>
      if high ≠ some 0 ∧ pass c then
        spanShortest pass k (low - 1) (high.map (· - 1)) rest (s.step c rest)
      else none

def spanCommitted (pass : Char → Bool) (k : Accept) :
    Nat → Option Nat → List Char → Cursor → Option Cursor
  | low, _, [], s => if low = 0 then k s else none
  | low, high, c :: rest, s =>
    if high ≠ some 0 ∧ pass c then
      spanCommitted pass k (low - 1) (high.map (· - 1)) rest (s.step c rest)
    else if low = 0 then k s else none

def turns (body : Accept → Accept) (k : Accept) : Nat → Accept
  | 0, s => k s
  | n + 1, s => body (turns body k n) s

/-- Up to `n` turns of a body, the most first; a turn that consumes nothing is the last. -/
def turnsLongest (body : Accept → Accept) (k : Accept) : Nat → Accept
  | 0, s => k s
  | n + 1, s =>
    match body (fun t ↦ if t.index = s.index then k t else turnsLongest body k n t) s with
    | some e => some e
    | none => k s

def turnsShortest (body : Accept → Accept) (k : Accept) : Nat → Accept
  | 0, s => k s
  | n + 1, s =>
    match k s with
    | some e => some e
    | none => body (fun t ↦ if t.index = s.index then k t else turnsShortest body k n t) s

def turnsCommitted (body : Accept → Accept) (k : Accept) : Nat → Accept
  | 0, s => k s
  | n + 1, s =>
    match body some s with
    | some t => if t.index = s.index then k t else turnsCommitted body k n t
    | none => k s

def passOver (letterCase : LetterCase) : Text → Cursor → Option Cursor
  | [], s => some s
  | c :: t, s =>
    match s.after with
    | [] => none
    | d :: rest =>
      let same := match letterCase with
        | .distinguished => c == d
        | .folded => Text.lowerCode c.toNat == Text.lowerCode d.toNat
        | .asciiFolded => Text.asciiLower c == Text.asciiLower d
      if same then passOver letterCase t (s.step d rest) else none

/-- A bound for the number of further turns: no text holds more than one for each character and an
empty one. -/
def turnBound (low : Nat) (high : Option Nat) (s : Cursor) : Nat :=
  match high with
  | none => s.size + 1
  | some n => min (n - low) (s.size + 1)

/-- The first end of a way through the pattern from `s` that `k` accepts. -/
def run : Pattern → Accept → Accept
  | .empty, k, s => k s
  | .one set, k, s =>
    match s.after with
    | [] => none
    | c :: rest => if set.holds c then k (s.step c rest) else none
  | .span .longest low high set, k, s => spanLongest set.holds k low high s.after s
  | .span .shortest low high set, k, s => spanShortest set.holds k low high s.after s
  | .span .committed low high set, k, s => spanCommitted set.holds k low high s.after s
  | .both p q, k, s => run p (fun t ↦ run q k t) s
  | .either p q, k, s =>
    match run p k s with
    | some e => some e
    | none => run q k s
  | .group number p, k, s => run p (fun t ↦ k (s.record number t)) s
  | .repeated .longest low high p, k, s =>
    turns (fun k' s' ↦ run p k' s')
      (fun t ↦ turnsLongest (fun k' s' ↦ run p k' s') k (turnBound low high t) t) low s
  | .repeated .shortest low high p, k, s =>
    turns (fun k' s' ↦ run p k' s')
      (fun t ↦ turnsShortest (fun k' s' ↦ run p k' s') k (turnBound low high t) t) low s
  | .repeated .committed low high p, k, s =>
    turns (fun k' s' ↦ (run p some s').bind k')
      (fun t ↦ turnsCommitted (fun k' s' ↦ run p k' s') k (turnBound low high t) t) low s
  | .atomic p, k, s => (run p some s).bind k
  | .ahead wanted p, k, s =>
    match run p some s with
    | some t => if wanted then k { s with groups := t.groups } else none
    | none => if wanted then none else k s
  | .behind wanted width p, k, s =>
    match if s.index < width then none else run p some (s.back width) with
    | some t => if wanted then k { s with groups := t.groups } else none
    | none => if wanted then none else k s
  | .again number letterCase, k, s =>
    match s.group number with
    | some t => (passOver letterCase t s).bind k
    | none => none
  | .ifGroup number p q, k, s => if (s.group number).isSome then run p k s else run q k s
  | .anchor a, k, s => if a.holds s then k s else none

end Pattern

/-- An occurrence of a pattern in a text. -/
structure Match where
  start : Nat
  text : Text
  groups : List (Nat × Capture)
deriving DecidableEq, Repr

namespace Match

def group (m : Match) (number : Nat) : Option Text :=
  (m.groups.find? fun g ↦ g.1 == number).map (·.2.text)

def stop (m : Match) : Nat := m.start + m.text.length

end Match

namespace Pattern

def matchAt (p : Pattern) (nonEmpty : Bool) (s : Cursor) : Option Match :=
  (p.run (fun t ↦ if nonEmpty ∧ t.index = s.index then none else some t) s).map fun e ↦
    { start := s.index, text := s.after.take (e.index - s.index), groups := e.groups }

/-- The first match at or after a place in a text of `size` characters; `nonEmpty` concerns a match
at the place itself. -/
def searchFrom (p : Pattern) (size : Nat) (nonEmpty : Bool) (before : List Char) (index : Nat)
    (after : List Char) : Option Match :=
  match p.matchAt nonEmpty ⟨size, index, before, after, []⟩ with
  | some m => some m
  | none =>
    match after with
    | [] => none
    | c :: rest => searchFrom p size false (c :: before) (index + 1) rest

/-- All matches from a place on, from the left and without overlaps. A match may begin where the
one before it ended, and there must not be empty if that one was. -/
def findFrom (p : Pattern) (size : Nat) (nonEmpty : Bool) (before : List Char) (index : Nat)
    (after : List Char) : List Match :=
  match p.searchFrom size nonEmpty before index after with
  | none => []
  | some m =>
    let used := m.stop - index
    if used = 0 then
      if nonEmpty then [m] else m :: findFrom p size true before index after
    else match after with
      | [] => [m]
      | c :: rest =>
        m :: findFrom p size m.text.isEmpty (((c :: rest).take used).reverse ++ before)
          (index + used) (rest.drop (used - 1))
termination_by 2 * after.length + (if nonEmpty then 0 else 1)
decreasing_by
  · simp_all
  · simp only [List.length_drop, List.length_cons]
    split <;> split <;> omega

def find? (p : Pattern) (t : Text) : Option Match := p.searchFrom t.length false [] 0 t

def findAll (p : Pattern) (t : Text) : List Match := p.findFrom t.length false [] 0 t

def matchStart? (p : Pattern) (t : Text) : Option Match := p.matchAt false (.start t)

/-- The texts that group `number` took in all matches, empty where it took part in none. -/
def captures (p : Pattern) (number : Nat) (t : Text) : List Text :=
  (p.findAll t).map fun m ↦ (m.group number).getD []

end Pattern

end SasMigration
