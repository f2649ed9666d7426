import SasMigration.Number.Numeral
import SasMigration.Pattern.Basic
import SasMigration.Text.Quoted

namespace SasMigration

inductive PatternCause
  | danglingBackslash
  | badEscape (written : Text)
  | incompleteEscape (written : Text)
  | octalTooLarge (written : Text)
  | openGroup
  | groupOfLookbehind
  | unknownGroup (number : Nat)
  | missingBrace
  | unknownCharacter (name : Text)
  | missingName (what : Text)
  | unterminatedName (terminator : Char)
  | badGroupName (name : Text)
  | unterminatedSet
  | badRange (low high : Text)
  | reversedCounts
  | nothingToRepeat
  | multipleRepeat
  | unexpectedEnd
  | unknownExtension (written : Text)
  | unknownGroupName (name : Text)
  | unterminatedComment
  | unterminatedGroup
  | badGroupNumber
  | tooManyBranches
  | lateFlags
  | repeatedGroupName (name : Text) (new old : Nat)
  | localeFlag
  | incompatibleFlags
  | missingFlagEnd
  | unknownFlag
  | missingFlag
  | missingColon
  | kindFlagOff
  | globalFlagOn
  | globalFlagOff
  | flagOnAndOff
  | unbalanced
  | variableLookbehind
  | tooFarBehind
  | templateRepetition (preference : Preference)
  | tooDeep
  | tooManyTurns
  | longNumeral (digits : Nat)
  | asciiAndUnicode
deriving DecidableEq, Repr

namespace PatternCause

def repetitionName : Preference → Text
  | .longest => "MAX_REPEAT"
  | .shortest => "MIN_REPEAT"
  | .committed => "POSSESSIVE_REPEAT"

def message : PatternCause → Text
  | danglingBackslash => "bad escape (end of pattern)"
  | badEscape written => "bad escape " ++ written
  | incompleteEscape written => "incomplete escape " ++ written
  | octalTooLarge written => "octal escape value " ++ written ++ " outside of range 0-0o377"
  | openGroup => "cannot refer to an open group"
  | groupOfLookbehind => "cannot refer to group defined in the same lookbehind subpattern"
  | unknownGroup number => "invalid group reference " ++ Text.ofNat number
  | missingBrace => "missing \x7b"
  | unknownCharacter name => "undefined character name " ++ Text.quoted name
  | missingName what => "missing " ++ what
  | unterminatedName terminator => "missing " ++ terminator :: ", unterminated name"
  | badGroupName name => "bad character in group name " ++ Text.quoted name
  | unterminatedSet => "unterminated character set"
  | badRange low high => "bad character range " ++ low ++ "-" ++ high
  | reversedCounts => "min repeat greater than max repeat"
  | nothingToRepeat => "nothing to repeat"
  | multipleRepeat => "multiple repeat"
  | unexpectedEnd => "unexpected end of pattern"
  | unknownExtension written => "unknown extension ?" ++ written
  | unknownGroupName name => "unknown group name " ++ Text.quoted name
  | unterminatedComment => "missing ), unterminated comment"
  | unterminatedGroup => "missing ), unterminated subpattern"
  | badGroupNumber => "bad group number"
  | tooManyBranches => "conditional backref with more than two branches"
  | lateFlags => "global flags not at the start of the expression"
  | repeatedGroupName name new old =>
    "redefinition of group name " ++ Text.quoted name ++ " as group " ++ Text.ofNat new ++
      "; was group " ++ Text.ofNat old
  | localeFlag => "bad inline flags: cannot use 'L' flag with a str pattern"
  | incompatibleFlags => "bad inline flags: flags 'a', 'u' and 'L' are incompatible"
  | missingFlagEnd => "missing -, : or )"
  | unknownFlag => "unknown flag"
  | missingFlag => "missing flag"
  | missingColon => "missing :"
  | kindFlagOff => "bad inline flags: cannot turn off flags 'a', 'u' and 'L'"
  | globalFlagOn => "bad inline flags: cannot turn on global flag"
  | globalFlagOff => "bad inline flags: cannot turn off global flag"
  | flagOnAndOff => "bad inline flags: flag turned on and off"
  | unbalanced => "unbalanced parenthesis"
  | variableLookbehind => "look-behind requires fixed-width pattern"
  | tooFarBehind => "looks too much behind"
  | templateRepetition preference =>
    "internal: unsupported template operator " ++ repetitionName preference
  | longNumeral digits => Text.tooManyDigits digits
  | tooDeep => "maximum recursion depth exceeded"
  | tooManyTurns => "the repetition number is too large"
  | asciiAndUnicode => "ASCII and UNICODE flags are incompatible"

end PatternCause

/-- A fault with the place in the written pattern where it shows, if it has one. -/
structure PatternFault where
  cause : PatternCause
  position : Option Nat
  written : Text
deriving DecidableEq, Repr

namespace PatternFault

def columnAfter (t : Text) : Nat := (t.reverse.takeWhile (· != '\n')).length

/-- The cause and its place; in a pattern of several lines also the line and the column. -/
def message (f : PatternFault) : Text :=
  match f.position with
  | none => f.cause.message
  | some position =>
    let start := f.written.take position
    f.cause.message ++ " at position " ++ Text.ofNat position ++
      if f.written.contains '\n' then
        " (line " ++ Text.ofNat (start.count '\n' + 1) ++ ", column " ++
          Text.ofNat (columnAfter start + 1) ++ ")"
      else []

end PatternFault

end SasMigration
