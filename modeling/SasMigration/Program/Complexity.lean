import SasMigration.Pattern.Matching

namespace SasMigration

structure Complexity where
  totalLines : Nat
  codeLines : Nat
  commentLines : Nat
  macros : Nat
  procedures : Nat
  dataSteps : Nat
  conditions : Nat
  loops : Nat
  cyclomatic : Nat
deriving DecidableEq, Repr

namespace Complexity

def startsComment (line : Text) : Bool :=
  let t := Text.strip line
  Text.startsWith "*" t || Text.startsWith "/*" t

def isCodeLine (line : Text) : Bool := !(Text.strip line).isEmpty && !startsComment line

def countCodeLines (lines : List Text) : Nat := lines.countP isCodeLine

/-- Comment lines, where `inside` says whether a block comment is open. -/
def countCommentLines : Bool → List Text → Nat
  | _, [] => 0
  | true, line :: rest => 1 + countCommentLines (!Text.occursIn "*/" line) rest
  | false, line :: rest =>
    if startsComment line then
      1 + countCommentLines (Text.occursIn "/*" line && !Text.occursIn "*/" line) rest
    else countCommentLines false rest

def macroStart : Pattern := .inOrder [.keyword "%macro", .blanks1, .word1]

def procedureStart : Pattern := .inOrder [.keyword "proc", .blanks1, .word1]

def dataStart : Pattern :=
  .inOrder [.keyword "data", .blanks1,
    .span .longest 1 none (.ofItems false .distinguished [.kind .word false false, .char '.'])]

def wholeWord (word : Text) : Pattern := .inOrder [.wordEdge, .keyword word, .wordEdge]

def loopWith (word : Text) : Pattern :=
  .inOrder [.wordEdge, .keyword "do", .blanks1, .keyword word, .wordEdge]

def count (p : Pattern) (code : Text) : Nat := (p.findAll code).length

def decisions : List Pattern :=
  [wholeWord "if", wholeWord "else", wholeWord "when", loopWith "while", loopWith "until",
    wholeWord "select"]

def countDecisions (code : Text) : Nat :=
  decisions.foldl (fun total p ↦ total + count p code) 0

def ofCode (code : Text) : Complexity :=
  let lines := Text.lines code
  { totalLines := lines.length
    codeLines := countCodeLines lines
    commentLines := countCommentLines false lines
    macros := count macroStart code
    procedures := count procedureStart code
    dataSteps := count dataStart code
    conditions := count (wholeWord "if") code
    loops := count (wholeWord "do") code
    cyclomatic := countDecisions code + 1 }

end Complexity

end SasMigration
