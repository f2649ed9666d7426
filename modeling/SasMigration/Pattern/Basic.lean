import SasMigration.Text.Letter

namespace SasMigration

/-- Whether two letters that differ in case are taken for one. -/
inductive LetterCase
  | distinguished
  | folded
  | asciiFolded
deriving DecidableEq, Repr

inductive CharKind
  | digit
  | blank
  | word
deriving DecidableEq, Repr

inductive ClassItem
  | char (c : Char)
  | range (low high : Nat)
  | kind (k : CharKind) (ascii outside : Bool)
deriving DecidableEq, Repr

inductive CharSet
  | all
  | notNewline
  | letter (c : Char) (letterCase : LetterCase)
  | ofItems (negated : Bool) (letterCase : LetterCase) (items : List ClassItem)
deriving DecidableEq, Repr

/-- Which of several possible repetitions is tried first; a committed one is never taken back. -/
inductive Preference
  | longest
  | shortest
  | committed
deriving DecidableEq, Repr

inductive Anchor
  | textStart
  | lineStart
  | textEnd
  | finalLineEnd
  | lineEnd
  | wordEdge (ascii : Bool)
  | notWordEdge (ascii : Bool)
deriving DecidableEq, Repr

inductive Pattern
  | empty
  | one (set : CharSet)
  | span (preference : Preference) (low : Nat) (high : Option Nat) (set : CharSet)
  | both (first second : Pattern)
  | either (first second : Pattern)
  | group (number : Nat) (body : Pattern)
  | repeated (preference : Preference) (low : Nat) (high : Option Nat) (body : Pattern)
  | atomic (body : Pattern)
  | ahead (wanted : Bool) (body : Pattern)
  | behind (wanted : Bool) (width : Nat) (body : Pattern)
  | again (number : Nat) (letterCase : LetterCase)
  | ifGroup (number : Nat) (present absent : Pattern)
  | anchor (a : Anchor)
deriving DecidableEq, Repr

namespace CharKind

def holds (ascii : Bool) : CharKind → Char → Bool
  | .digit, c => if ascii then c.isDigit else Text.isDigit c
  | .blank, c => if ascii then Text.isAsciiBlank c else Text.isBlank c
  | .word, c => if ascii then Text.isAsciiWord c else Text.isWord c

end CharKind

namespace LetterCase

def same : LetterCase → Char → Char → Bool
  | .distinguished, a, b => a == b
  | .folded, a, b => Text.sameLetter a b
  | .asciiFolded, a, b => Text.asciiLower a == Text.asciiLower b

def forms : LetterCase → Char → List Nat
  | .distinguished, c => [c.toNat]
  | .folded, c => Text.lettersLike c.toNat
  | .asciiFolded, c => [c.toNat, c.toLower.toNat, c.toUpper.toNat]

end LetterCase

namespace ClassItem

def holds (letterCase : LetterCase) : ClassItem → Char → Bool
  | .char a, c => letterCase.same a c
  | .range low high, c => (letterCase.forms c).any fun n ↦ low ≤ n && n ≤ high
  | .kind k ascii outside, c => k.holds ascii c != outside

end ClassItem

namespace CharSet

def holds : CharSet → Char → Bool
  | .all, _ => true
  | .notNewline, c => c != '\n'
  | .letter a letterCase, c => letterCase.same a c
  | .ofItems negated letterCase items, c =>
    (items.any fun item ↦ item.holds letterCase c) != negated

def blank : CharSet := .ofItems false .distinguished [.kind .blank false false]

def word : CharSet := .ofItems false .distinguished [.kind .word false false]

def oneOf (t : Text) : CharSet := .ofItems false .distinguished (t.map .char)

def noneOf (t : Text) : CharSet := .ofItems true .distinguished (t.map .char)

end CharSet

namespace Pattern

def inOrder : List Pattern → Pattern
  | [] => .empty
  | [p] => p
  | p :: ps => .both p (inOrder ps)

def keyword (t : Text) : Pattern := inOrder (t.map fun c ↦ .one (.letter c .folded))

def literal (t : Text) : Pattern := inOrder (t.map fun c ↦ .one (.letter c .distinguished))

def blanks : Pattern := .span .longest 0 none .blank

def blanks1 : Pattern := .span .longest 1 none .blank

def word1 : Pattern := .span .longest 1 none .word

def optional (p : Pattern) : Pattern := .repeated .longest 0 (some 1) p

def wordEdge : Pattern := .anchor (.wordEdge false)

def anything : Pattern := .span .shortest 0 none .all

def anyInLine : Pattern := .span .shortest 0 none .notNewline

end Pattern

end SasMigration
