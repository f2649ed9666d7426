import SasMigration.Pattern.Matching

namespace SasMigration

structure DataSetUsage where
  input : List Text
  output : List Text
deriving DecidableEq, Repr

structure References where
  calls : List Text
  external : List Text
  usage : DataSetUsage
deriving DecidableEq, Repr

namespace References

/-- The word after a percent sign, with the arguments that follow it on the line. -/
def callPattern : Pattern :=
  .inOrder [.literal "%", .group 1 .word1,
    .optional (.inOrder [.blanks, .literal "(", .anyInLine, .literal ")"])]

def builtIn : List Text :=
  ["if", "then", "else", "do", "end", "let", "put", "global", "local", "include"]

def isBuiltIn (name : Text) : Bool := builtIn.contains (Text.lower name)

def callsIn (code : Text) : List Text :=
  Text.distinctSorted ((callPattern.captures 1 code).filter fun name ↦ !isBuiltIn name)

def optionalQuote : Pattern := .span .longest 0 (some 1) (.oneOf "'\"")

def includePattern : Pattern :=
  .inOrder [.keyword "%include", .blanks1, optionalQuote, .group 1 .anyInLine, optionalQuote,
    .literal ";"]

def includesIn (code : Text) : List Text := Text.distinctSorted (includePattern.captures 1 code)

def libraryPattern : Pattern :=
  .inOrder [.keyword "libname", .blanks1, .group 1 .word1, .blanks1]

def librariesIn (code : Text) : List Text := Text.distinctSorted (libraryPattern.captures 1 code)

def dataSetName : Pattern :=
  .group 1 (.span .longest 1 none
    (.ofItems false .distinguished [.kind .word false false, .char '.']))

def afterKeyword (word : Text) : Pattern := .inOrder [.keyword word, .blanks1, dataSetName]

def asOption (word : Text) : Pattern :=
  .inOrder [.keyword word, .blanks, .literal "=", .blanks, dataSetName]

def dataSetsBy (p : Pattern) (code : Text) : List Text := p.captures 1 code

def inputsIn (code : Text) : List Text :=
  dataSetsBy (afterKeyword "set") code ++ dataSetsBy (afterKeyword "from") code

def outputsIn (code : Text) : List Text :=
  dataSetsBy (afterKeyword "data") code ++ dataSetsBy (asOption "out") code

def ofCode (code : Text) : References :=
  { calls := callsIn code
    external := includesIn code ++ librariesIn code
    usage :=
      { input := Text.distinctSorted (inputsIn code)
        output := Text.distinctSorted (outputsIn code) } }

end References

end SasMigration
