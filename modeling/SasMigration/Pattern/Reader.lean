import SasMigration.Pattern.Basic
import SasMigration.Pattern.Fault
import SasMigration.Text.CharacterName
import SasMigration.Text.Identifier

namespace SasMigration

structure PatternFlags where
  ignoreCase : Bool
  multiline : Bool
  dotAll : Bool
  verbose : Bool
  ascii : Bool
deriving DecidableEq, Repr

namespace PatternFlags

def none : PatternFlags := ⟨false, false, false, false, false⟩

def anyCase : PatternFlags := { none with ignoreCase := true }

def anyCaseDotAll : PatternFlags := { none with ignoreCase := true, dotAll := true }

def letterCase (f : PatternFlags) : LetterCase :=
  if f.ignoreCase then if f.ascii then .asciiFolded else .folded else .distinguished

def add (f g : PatternFlags) : PatternFlags :=
  ⟨f.ignoreCase || g.ignoreCase, f.multiline || g.multiline, f.dotAll || g.dotAll,
    f.verbose || g.verbose, f.ascii || g.ascii⟩

def remove (f g : PatternFlags) : PatternFlags :=
  ⟨f.ignoreCase && !g.ignoreCase, f.multiline && !g.multiline, f.dotAll && !g.dotAll,
    f.verbose && !g.verbose, f.ascii && !g.ascii⟩

end PatternFlags

/-- The least and the greatest number of characters that a pattern can take. -/
structure PatternWidth where
  low : Nat
  high : Option Nat
deriving DecidableEq, Repr

namespace PatternWidth

def zero : PatternWidth := ⟨0, some 0⟩

def one : PatternWidth := ⟨1, some 1⟩

def add (v w : PatternWidth) : PatternWidth :=
  ⟨v.low + w.low, match v.high, w.high with
    | some a, some b => some (a + b)
    | _, _ => none⟩

def either (v w : PatternWidth) : PatternWidth :=
  ⟨min v.low w.low, match v.high, w.high with
    | some a, some b => some (max a b)
    | _, _ => none⟩

def times (low : Nat) (high : Option Nat) (w : PatternWidth) : PatternWidth :=
  ⟨w.low * low, match high, w.high with
    | _, some 0 => some 0
    | some 0, _ => some 0
    | some n, some m => some (m * n)
    | _, _ => none⟩

end PatternWidth

inductive ItemRole
  | anchor
  | repetition
  | other
deriving DecidableEq, Repr

/-- A part of a pattern, with the first fault that keeps it from being used although it can be
read. -/
structure PatternItem where
  pattern : Pattern
  role : ItemRole
  width : PatternWidth
  fault : Option PatternCause

inductive PatternToken
  | char (c : Char)
  | escape (c : Char)
deriving DecidableEq, Repr

namespace PatternToken

def text : PatternToken → Text
  | char c => [c]
  | escape c => ['\\', c]

end PatternToken

/-- What is left of a written pattern, and what has been read of it. -/
structure PatternSource where
  rest : List Char
  position : Nat
  flags : PatternFlags
  unicode : Bool
  groups : Nat
  names : List (Text × Nat)
  widths : List (Nat × PatternWidth)
  behindGroups : Option Nat
  references : List (Nat × Nat)
  template : Bool

abbrev ReadPattern := StateT PatternSource (Except (PatternCause × Option Nat))

namespace ReadPattern

def failAt {α : Type} (cause : PatternCause) (position : Nat) : ReadPattern α :=
  throw (cause, some position)

def fail {α : Type} (cause : PatternCause) (back : Nat) : ReadPattern α := do
  failAt cause ((← get).position - back)

def peek : ReadPattern (Option PatternToken) := do
  match (← get).rest with
  | [] => return none
  | '\\' :: c :: _ => return some (.escape c)
  | c :: _ => return some (.char c)

/-- Moves past a token; a backslash with nothing after it is refused as soon as it comes next. -/
def next : ReadPattern (Option PatternToken) := do
  match ← peek with
  | none => return none
  | some token =>
    modify fun s ↦
      { s with rest := s.rest.drop token.text.length, position := s.position + token.text.length }
    if (← get).rest = ['\\'] then fail .danglingBackslash 0
    return some token

def eat (c : Char) : ReadPattern Bool := do
  if (← peek) = some (.char c) then
    let _ ← next
    return true
  else return false

def readWhile (pass : Char → Bool) : Nat → ReadPattern Text
  | 0 => return []
  | n + 1 => do
    match ← peek with
    | some (.char c) =>
      if pass c then
        let _ ← next
        return c :: (← readWhile pass n)
      else return []
    | _ => return []

def readUntil (terminator : Char) (what : Text) : Nat → Text → ReadPattern Text
  | 0, _ => fail .unexpectedEnd 0
  | n + 1, done => do
    match ← next with
    | none =>
      if done.isEmpty then fail (.missingName what) 0
      else fail (.unterminatedName terminator) done.length
    | some token =>
      if token = .char terminator then
        if done.isEmpty then fail (.missingName what) 1 else return done
      else readUntil terminator what n (done ++ token.text)

def readName (terminator : Char) (what : Text) : ReadPattern Text := do
  readUntil terminator what ((← get).rest.length + 1) []

def skipLine : Nat → ReadPattern Unit
  | 0 => return ()
  | n + 1 => do
    match ← next with
    | none => return ()
    | some token => if token = .char '\n' then return () else skipLine n

def skipComment (start : Nat) : Nat → ReadPattern Unit
  | 0 => return ()
  | n + 1 => do
    match ← next with
    | none => failAt .unterminatedComment start
    | some token => if token = .char ')' then return () else skipComment start n

def isOctal (c : Char) : Bool := '0' ≤ c ∧ c ≤ '7'

def single (set : CharSet) : PatternItem := ⟨.one set, .other, .one, none⟩

def anchored (a : Anchor) : PatternItem := ⟨.anchor a, .anchor, .zero, none⟩

def codeItem (n : Nat) : ClassItem :=
  if n.isValidChar then .char (Char.ofNat n) else .range n n

def literalSet (letterCase : LetterCase) : ClassItem → CharSet
  | .char c => .letter c letterCase
  | item => .ofItems false letterCase [item]

def simpleEscape? : Char → Option Char
  | 'a' => some (Char.ofNat 7)
  | 'b' => some (Char.ofNat 8)
  | 'f' => some (Char.ofNat 12)
  | 'n' => some '\n'
  | 'r' => some '\r'
  | 't' => some '\t'
  | 'v' => some (Char.ofNat 11)
  | '\\' => some '\\'
  | _ => none

def kindEscape? (ascii : Bool) : Char → Option ClassItem
  | 'd' => some (.kind .digit ascii false)
  | 'D' => some (.kind .digit ascii true)
  | 's' => some (.kind .blank ascii false)
  | 'S' => some (.kind .blank ascii true)
  | 'w' => some (.kind .word ascii false)
  | 'W' => some (.kind .word ascii true)
  | _ => none

def hexEscape (c : Char) (count : Nat) : ReadPattern ClassItem := do
  let digits ← readWhile (fun d ↦ (Text.hexValue? d).isSome) count
  let written := '\\' :: c :: digits
  if digits.length ≠ count then fail (.incompleteEscape written) written.length
  else if Text.valueIn 16 digits > 0x10ffff then fail (.badEscape written) written.length
  else return codeItem (Text.valueIn 16 digits)

def namedEscape : ReadPattern ClassItem := do
  if !(← eat (Char.ofNat 123)) then fail .missingBrace 0
  else
    let name ← readName (Char.ofNat 125) "character name"
    match CharacterName.code? name with
    | some n => return codeItem n
    | none => fail (.unknownCharacter name) (name.length + 4)

def classEscape (ascii : Bool) (c : Char) : ReadPattern ClassItem := do
  match simpleEscape? c, kindEscape? ascii c with
  | some d, _ => return .char d
  | none, some item => return item
  | none, none =>
    if c = 'x' then hexEscape c 2
    else if c = 'u' then hexEscape c 4
    else if c = 'U' then hexEscape c 8
    else if c = 'N' then namedEscape
    else if isOctal c then
      let digits := c :: (← readWhile isOctal 2)
      if Text.valueIn 8 digits > 0o377 then
        fail (.octalTooLarge ('\\' :: digits)) (digits.length + 1)
      else return codeItem (Text.valueIn 8 digits)
    else if c.isDigit || c.isAlpha then fail (.badEscape ['\\', c]) 2
    else return .char c

def isClosed (number : Nat) : ReadPattern Bool := do
  return (← get).widths.any fun w ↦ w.1 == number

def checkBehind (number : Nat) : ReadPattern Unit := do
  match (← get).behindGroups with
  | none => return ()
  | some groups =>
    if !(← isClosed number) then fail .openGroup 0
    else if groups ≤ number then fail .groupOfLookbehind 0
    else return ()

def widthOf (number : Nat) : ReadPattern PatternWidth := do
  return (((← get).widths.find? fun w ↦ w.1 == number).map (·.2)).getD .zero

def reference (flags : PatternFlags) (number : Nat) : ReadPattern PatternItem := do
  return ⟨.again number flags.letterCase, .other, ← widthOf number, none⟩

def groupEscape (flags : PatternFlags) (digits : Text) : ReadPattern PatternItem := do
  let number := Text.valueIn 10 digits
  if number < (← get).groups then
    if !(← isClosed number) then fail .openGroup (digits.length + 1)
    else
      checkBehind number
      reference flags number
  else fail (.unknownGroup number) digits.length

def escape (flags : PatternFlags) (c : Char) : ReadPattern PatternItem := do
  let literal (item : ClassItem) : PatternItem := single (literalSet flags.letterCase item)
  if c = 'A' then return anchored .textStart
  else if c = 'b' then return anchored (.wordEdge flags.ascii)
  else if c = 'B' then return anchored (.notWordEdge flags.ascii)
  else if c = 'Z' then return anchored .textEnd
  else match kindEscape? flags.ascii c, simpleEscape? c with
    | some item, _ => return single (.ofItems false flags.letterCase [item])
    | none, some d => return literal (.char d)
    | none, none =>
      if c = 'x' then return literal (← hexEscape c 2)
      else if c = 'u' then return literal (← hexEscape c 4)
      else if c = 'U' then return literal (← hexEscape c 8)
      else if c = 'N' then return literal (← namedEscape)
      else if c = '0' then
        return literal (codeItem (Text.valueIn 8 (c :: (← readWhile isOctal 2))))
      else if c.isDigit then
        match ← readWhile Char.isDigit 1 with
        | [] => groupEscape flags [c]
        | d :: _ =>
          if isOctal c && isOctal d then
            match ← readWhile isOctal 1 with
            | [] => groupEscape flags [c, d]
            | e :: _ =>
              if Text.valueIn 8 [c, d, e] > 0o377 then fail (.octalTooLarge ['\\', c, d, e]) 4
              else return literal (codeItem (Text.valueIn 8 [c, d, e]))
          else groupEscape flags [c, d]
      else if c.isAlpha then fail (.badEscape ['\\', c]) 2
      else return literal (.char c)

def endOfRange? : ClassItem → Option Nat
  | .char c => some c.toNat
  | .range low high => if low = high then some low else none
  | .kind .. => none

def classMember (ascii : Bool) : PatternToken → ReadPattern ClassItem
  | .char c => return .char c
  | .escape c => classEscape ascii c

/-- The members of a bracketed class up to its closing bracket; `start` is where it opened. -/
def readClass (ascii : Bool) (start : Nat) : Nat → List ClassItem → ReadPattern (List ClassItem)
  | 0, _ => failAt .unterminatedSet start
  | n + 1, items => do
    match ← next with
    | none => failAt .unterminatedSet start
    | some token =>
      if token = .char ']' && !items.isEmpty then return items
      else
        let low ← classMember ascii token
        if ← eat '-' then
          match ← next with
          | none => failAt .unterminatedSet start
          | some (.char ']') => return items ++ [low, .char '-']
          | some token' =>
            let high ← classMember ascii token'
            match endOfRange? low, endOfRange? high with
            | some a, some b =>
              if b < a then
                fail (.badRange token.text token'.text) (token.text.length + 1 + token'.text.length)
              else readClass ascii start n (items ++ [.range a b])
            | _, _ =>
              fail (.badRange token.text token'.text) (token.text.length + 1 + token'.text.length)
        else readClass ascii start n (items ++ [low])

def mostTurns : Nat := 4294967295

def readCount (digits : Text) : ReadPattern Nat := do
  if Text.mostDigits < digits.length then throw (.longNumeral digits.length, none)
  let count := Text.valueIn 10 digits
  if mostTurns ≤ count then throw (.tooManyTurns, none)
  return count

/-- The bounds in braces after an opening brace; without a result the brace stands for itself. -/
def readBounds (here : Nat) : ReadPattern (Option (Nat × Option Nat)) := do
  let s ← get
  if (← peek) = some (.char (Char.ofNat 125)) then return none
  else
    let low ← readWhile Char.isDigit s.rest.length
    let high ← if ← eat ',' then readWhile Char.isDigit s.rest.length else pure low
    if !(← eat (Char.ofNat 125)) then
      modify fun s' ↦ { s' with rest := s.rest, position := s.position }
      return none
    else
      let least ← readCount low
      let most ← if high.isEmpty then pure none else some <$> readCount high
      if most.any fun m ↦ m < least then failAt .reversedCounts here
      else return some (least, most)

def repeatLast (items : List PatternItem) (place low : Nat) (high : Option Nat) :
    ReadPattern (List PatternItem) := do
  match items with
  | [] => failAt .nothingToRepeat place
  | item :: before =>
    if item.role = .anchor then failAt .nothingToRepeat place
    else if item.role = .repetition then failAt .multipleRepeat place
    else
      let shortest ← eat '?'
      let committed ← if shortest then pure false else eat '+'
      let preference : Preference :=
        if shortest then .shortest else if committed then .committed else .longest
      let pattern := match item.pattern with
        | .one set => .span preference low high set
        | p => .repeated preference low high p
      let fault :=
        if (← get).template then some (.templateRepetition preference) else item.fault
      return ⟨pattern, .repetition, item.width.times low high, fault⟩ :: before

inductive FlagLetter
  | ignoreCase
  | locale
  | multiline
  | dotAll
  | verbose
  | ascii
  | template
  | unicode
deriving DecidableEq, Repr

namespace FlagLetter

def of? : Char → Option FlagLetter
  | 'i' => some .ignoreCase
  | 'L' => some .locale
  | 'm' => some .multiline
  | 's' => some .dotAll
  | 'x' => some .verbose
  | 'a' => some .ascii
  | 't' => some .template
  | 'u' => some .unicode
  | _ => none

def isKind : FlagLetter → Bool
  | .ascii | .locale | .unicode => true
  | _ => false

def flags (letters : List FlagLetter) : PatternFlags :=
  ⟨letters.contains .ignoreCase, letters.contains .multiline, letters.contains .dotAll,
    letters.contains .verbose, letters.contains .ascii⟩

end FlagLetter

def flagFault (written : PatternToken) (otherwise : PatternCause) : PatternCause :=
  match written with
  | .char c => if Text.isLetter c then .unknownFlag else otherwise
  | .escape _ => otherwise

def readFlagsOn : Nat → FlagLetter → List FlagLetter → ReadPattern (List FlagLetter × Char)
  | 0, _, _ => fail .missingFlagEnd 0
  | n + 1, letter, on => do
    if letter = .locale then fail .localeFlag 0
    let on := letter :: on
    if letter.isKind && on.any (fun l ↦ l.isKind && l != letter) then fail .incompatibleFlags 0
    match ← next with
    | none => fail .missingFlagEnd 0
    | some (.char c) =>
      if c = ')' || c = '-' || c = ':' then return (on, c)
      else match FlagLetter.of? c with
        | some letter' => readFlagsOn n letter' on
        | none => fail (flagFault (.char c) .missingFlagEnd) 1
    | some token => fail (flagFault token .missingFlagEnd) 2

def readFlagsOff : Nat → FlagLetter → List FlagLetter → ReadPattern (List FlagLetter)
  | 0, _, _ => fail .missingColon 0
  | n + 1, letter, off => do
    if letter.isKind then fail .kindFlagOff 0
    let off := letter :: off
    match ← next with
    | none => fail .missingColon 0
    | some (.char c) =>
      if c = ':' then return off
      else match FlagLetter.of? c with
        | some letter' => readFlagsOff n letter' off
        | none => fail (flagFault (.char c) .missingColon) 1
    | some token => fail (flagFault token .missingColon) 2

/-- Flags for the whole pattern, or the flags turned on and off within a group. -/
inductive FlagScope
  | whole (on : List FlagLetter)
  | inside (on off : List FlagLetter)

def readFlags (c : Char) : ReadPattern FlagScope := do
  let size := (← get).rest.length + 1
  let (on, stop) ← match FlagLetter.of? c with
    | some letter => readFlagsOn size letter []
    | none => pure ([], '-')
  if stop = ')' then return .whole on
  else if on.contains .template then fail .globalFlagOn 1
  else
    let off ←
      if stop = '-' then
        match ← next with
        | none => fail .missingFlag 0
        | some (.char d) =>
          match FlagLetter.of? d with
          | some letter => readFlagsOff size letter []
          | none => fail (flagFault (.char d) .missingFlag) 1
        | some token => fail (flagFault token .missingFlag) 2
      else pure []
    if off.contains .template then fail .globalFlagOff 1
    else if on.any off.contains then fail .flagOnAndOff 1
    else return .inside on off

/-- What an opening parenthesis begins. -/
inductive GroupHead
  | capture (name : Option Text)
  | plain (on off : List FlagLetter)
  | atomic
  | look (behind wanted : Bool)
  | condition (number : Nat)
  | reference (number : Nat)
  | comment
  | flags (on : List FlagLetter)

def checkName (name : Text) : ReadPattern Unit := do
  if Text.isIdentifier name then return () else fail (.badGroupName name) (name.length + 1)

def numberOf (name : Text) : ReadPattern Nat := do
  match (← get).names.find? fun entry ↦ entry.1 == name with
  | some entry => return entry.2
  | none => fail (.unknownGroupName name) (name.length + 1)

def readNamed : ReadPattern GroupHead := do
  if ← eat '<' then
    let name ← readName '>' "group name"
    checkName name
    return .capture (some name)
  else if ← eat '=' then
    let name ← readName ')' "group name"
    checkName name
    let number ← numberOf name
    if !(← isClosed number) then fail .openGroup (name.length + 1)
    checkBehind number
    return .reference number
  else match ← next with
    | none => fail .unexpectedEnd 0
    | some token => fail (.unknownExtension ('P' :: token.text)) (token.text.length + 2)

def mostGroups : Nat := 1073741823

/-- The number of a group, kept to be compared with the number of groups at the end. -/
def readGroupNumber (written : Text) : ReadPattern Nat := do
  let back := written.length + 1
  match Text.readInt? written with
  | some (.ofNat number) =>
    if number = 0 then fail .badGroupNumber back
    else if mostGroups ≤ number then fail (.unknownGroup number) back
    else
      modify fun s ↦
        if s.references.any fun r ↦ r.1 == number then s
        else { s with references := s.references ++ [(number, s.position - back)] }
      return number
  | _ => fail (.badGroupName written) back

def readCondition : ReadPattern GroupHead := do
  let name ← readName ')' "group name"
  let number ← if Text.isIdentifier name then numberOf name else readGroupNumber name
  checkBehind number
  return .condition number

def readHead (start : Nat) : ReadPattern GroupHead := do
  if !(← eat '?') then return .capture none
  else match ← next with
    | none => fail .unexpectedEnd 0
    | some (.escape c) => fail (.unknownExtension ['\\', c]) 3
    | some (.char c) =>
      if c = 'P' then readNamed
      else if c = ':' then return .plain [] []
      else if c = '#' then
        skipComment start ((← get).rest.length + 1)
        return .comment
      else if c = '=' then return .look false true
      else if c = '!' then return .look false false
      else if c = '<' then
        match ← next with
        | none => fail .unexpectedEnd 0
        | some (.char '=') => return .look true true
        | some (.char '!') => return .look true false
        | some token => fail (.unknownExtension ('<' :: token.text)) (token.text.length + 2)
      else if c = '(' then readCondition
      else if c = '>' then return .atomic
      else if (FlagLetter.of? c).isSome || c = '-' then
        match ← readFlags c with
        | .whole on => return .flags on
        | .inside on off => return .plain on off
      else fail (.unknownExtension [c]) 2

def openGroup (name : Option Text) : ReadPattern Nat := do
  let s ← get
  let number := s.groups
  match name with
  | none => set { s with groups := number + 1 }
  | some name =>
    match s.names.find? fun entry ↦ entry.1 == name with
    | some entry => fail (.repeatedGroupName name number entry.2) (name.length + 1)
    | none => set { s with groups := number + 1, names := (name, number) :: s.names }
  return number

def expectClose (start : Nat) : ReadPattern Unit := do
  if !(← eat ')') then failAt .unterminatedGroup start

def sequence (items : List PatternItem) : PatternItem :=
  ⟨.inOrder (items.reverse.map (·.pattern)), .other,
    items.foldl (fun w item ↦ item.width.add w) .zero, items.reverse.findSome? (·.fault)⟩

def alternatives : List PatternItem → PatternItem
  | [] => sequence []
  | [item] => item
  | item :: items =>
    let rest := alternatives items
    ⟨.either item.pattern rest.pattern, .other, item.width.either rest.width,
      item.fault.or rest.fault⟩

def farthestBehind : Nat := 4294967295

/-- A look-around. One that looks back takes a fixed number of characters. -/
def look (behind wanted : Bool) (body : PatternItem) : PatternItem :=
  if behind then
    let low := body.width.low
    let fault :=
      if farthestBehind < low then some .tooFarBehind
      else if some low ≠ body.width.high then some .variableLookbehind
      else body.fault
    ⟨.behind wanted low body.pattern, .other, .zero, fault⟩
  else ⟨.ahead wanted body.pattern, .other, .zero, body.fault⟩

def isVerboseBlank (c : Char) : Bool := Text.isAsciiBlank c

/-- Where a sequence stands: whether blanks in it are left out, whether the flags of the whole
pattern may be set in it, and how deep it is nested. -/
structure SequencePlace where
  verbose : Bool
  first : Bool
  depth : Nat

/-- How deep a sequence may be nested; a group counts twice and a condition once. -/
def deepest : Nat := 989

def checkDepth (depth : Nat) : ReadPattern Unit := do
  if deepest < depth then throw (.tooDeep, none)

mutual

def readAlternatives : Nat → PatternFlags → Bool → Nat → List PatternItem →
    ReadPattern PatternItem
  | 0, _, _, _, _ => fail .unexpectedEnd 0
  | n + 1, flags, verbose, depth, done => do
    checkDepth depth
    let item ← readSequence n flags ⟨verbose, depth == 0 && done.isEmpty, depth⟩ []
    let source ← get
    let flags := if depth = 0 then source.flags else flags
    if ← eat '|' then
      readAlternatives n flags (if depth = 0 then flags.verbose else verbose) depth (item :: done)
    else return alternatives (item :: done).reverse

def readSequence : Nat → PatternFlags → SequencePlace → List PatternItem →
    ReadPattern PatternItem
  | 0, _, _, _ => fail .unexpectedEnd 0
  | n + 1, flags, place, items => do
    match ← peek with
    | none => return sequence items
    | some (.char '|') => return sequence items
    | some (.char ')') => return sequence items
    | some token =>
      let here := (← get).position
      let _ ← next
      match token with
      | .escape c => readSequence n flags place ((← escape flags c) :: items)
      | .char c =>
        if place.verbose && isVerboseBlank c then readSequence n flags place items
        else if place.verbose && c = '#' then
          skipLine ((← get).rest.length + 1)
          readSequence n flags place items
        else if c = '[' then
          let negated ← eat '^'
          let members ← readClass flags.ascii here ((← get).rest.length + 1) []
          readSequence n flags place
            (single (.ofItems negated flags.letterCase members) :: items)
        else if c = '?' then
          readSequence n flags place (← repeatLast items here 0 (some 1))
        else if c = '*' then readSequence n flags place (← repeatLast items here 0 none)
        else if c = '+' then readSequence n flags place (← repeatLast items here 1 none)
        else if c = Char.ofNat 123 then
          match ← readBounds (here + 1) with
          | none =>
            readSequence n flags place (single (.letter c flags.letterCase) :: items)
          | some (low, high) =>
            readSequence n flags place (← repeatLast items here low high)
        else if c = '.' then
          readSequence n flags place
            (single (if flags.dotAll then .all else .notNewline) :: items)
        else if c = '^' then
          let a := if flags.multiline then Anchor.lineStart else .textStart
          readSequence n flags place (anchored a :: items)
        else if c = '$' then
          let a := if flags.multiline then Anchor.lineEnd else .finalLineEnd
          readSequence n flags place (anchored a :: items)
        else if c = '(' then
          match ← readHead here with
          | .comment => readSequence n flags place items
          | .flags on =>
            if !place.first || !items.isEmpty then failAt .lateFlags here
            modify fun s ↦
              { s with
                flags := s.flags.add (FlagLetter.flags on)
                template := s.template || on.contains .template
                unicode := s.unicode || on.contains .unicode }
            let flags := (← get).flags
            readSequence n flags { place with verbose := flags.verbose } items
          | .reference number =>
            readSequence n flags place ((← reference flags number) :: items)
          | .look behind wanted =>
            let groups := (← get).behindGroups
            if behind && groups.isNone then
              modify fun s ↦ { s with behindGroups := some s.groups }
            let body ← readAlternatives n flags place.verbose (place.depth + 2) []
            if behind then modify fun s ↦ { s with behindGroups := groups }
            expectClose here
            readSequence n flags place (look behind wanted body :: items)
          | .condition number =>
            let inner := { place with first := false, depth := place.depth + 1 }
            checkDepth inner.depth
            let present ← readSequence n flags inner []
            let absent ←
              if ← eat '|' then
                let absent ← readSequence n flags inner []
                if (← peek) = some (.char '|') then fail .tooManyBranches 0
                pure absent
              else pure (sequence [])
            expectClose here
            readSequence n flags place
              (⟨.ifGroup number present.pattern absent.pattern, .other,
                present.width.either absent.width, present.fault.or absent.fault⟩ :: items)
          | .atomic =>
            let body ← readAlternatives n flags place.verbose (place.depth + 2) []
            expectClose here
            readSequence n flags place
              (⟨.atomic body.pattern, .other, body.width, body.fault⟩ :: items)
          | .plain on off =>
            let kinds := on.any FlagLetter.isKind
            let base := if kinds then { flags with ascii := false } else flags
            let inner := (base.add (FlagLetter.flags on)).remove (FlagLetter.flags off)
            let verbose :=
              (place.verbose || on.contains .verbose) && !off.contains .verbose
            let body ← readAlternatives n inner verbose (place.depth + 2) []
            expectClose here
            readSequence n flags place ({ body with role := .other } :: items)
          | .capture name =>
            let number ← openGroup name
            let body ← readAlternatives n flags place.verbose (place.depth + 2) []
            expectClose here
            modify fun s ↦ { s with widths := (number, body.width) :: s.widths }
            readSequence n flags place
              (⟨.group number body.pattern, .other, body.width, body.fault⟩ :: items)
        else readSequence n flags place (single (.letter c flags.letterCase) :: items)

end

def readWhole (size : Nat) (flags : PatternFlags) : ReadPattern (Pattern × Nat) := do
  if (← get).rest = ['\\'] then fail .danglingBackslash 0
  let item ← readAlternatives (4 * size + 8) flags flags.verbose 0 []
  let s ← get
  if s.flags.ascii && s.unicode then throw (.asciiAndUnicode, none)
  if !s.rest.isEmpty then fail .unbalanced 0
  match s.references.find? fun r ↦ s.groups ≤ r.1 with
  | some r => failAt (.unknownGroup r.1) r.2
  | none =>
    match item.fault with
    | some fault => throw (fault, none)
    | none => return (item.pattern, s.groups - 1)

end ReadPattern

/-- A pattern that has been read, with the number of its groups. -/
structure NumberedPattern where
  pattern : Pattern
  groups : Nat
deriving DecidableEq, Repr

namespace Pattern

def read (flags : PatternFlags) (written : Text) : Except PatternFault NumberedPattern :=
  let source : PatternSource :=
    { rest := written, position := 0, flags, unicode := false, groups := 1, names := [],
      widths := [], behindGroups := none, references := [], template := false }
  match (ReadPattern.readWhole written.length flags).run source with
  | .ok ((pattern, groups), _) => .ok ⟨pattern, groups⟩
  | .error (cause, position) => .error ⟨cause, position, written⟩

end Pattern

end SasMigration
