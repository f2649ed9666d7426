import SasMigration.Pattern.Fault
import SasMigration.Value.Basic

namespace SasMigration

inductive FileFault
  | notFound
  | present
  | notDirectory
  | isDirectory
  | nameTooLong
  | nullCharacter
deriving DecidableEq, Repr

namespace FileFault

def reason : FileFault → Text
  | notFound => "[Errno 2] No such file or directory"
  | present => "[Errno 17] File exists"
  | notDirectory => "[Errno 20] Not a directory"
  | isDirectory => "[Errno 21] Is a directory"
  | nameTooLong => "[Errno 36] File name too long"
  | nullCharacter => "embedded null byte"

def message (fault : FileFault) (path : Text) : Text :=
  if fault = nullCharacter then fault.reason else fault.reason ++ ": " ++ Text.quoted path

end FileFault

/-- Where a byte sequence stops being UTF-8. -/
inductive DecodeFault
  | badStart (byte position : Nat)
  | badContinuation (byte start : Nat) (stop : Nat)
  | cutOff (byte start : Nat) (stop : Nat)
deriving DecidableEq, Repr

namespace DecodeFault

def span (byte start stop : Nat) : Text :=
  if stop = start + 1 then
    "byte 0x" ++ Text.hexDigits 2 byte ++ " in position " ++ Text.ofNat start
  else "bytes in position " ++ Text.ofNat start ++ "-" ++ Text.ofNat (stop - 1)

def message : DecodeFault → Text
  | badStart byte position =>
    "'utf-8' codec can't decode " ++ span byte position (position + 1) ++ ": invalid start byte"
  | badContinuation byte start stop =>
    "'utf-8' codec can't decode " ++ span byte start stop ++ ": invalid continuation byte"
  | cutOff byte start stop =>
    "'utf-8' codec can't decode " ++ span byte start stop ++ ": unexpected end of data"

end DecodeFault

inductive FieldFault
  | missing
  | null
  | notText
  | notInteger
  | notBoolean
deriving DecidableEq, Repr

namespace FieldFault

def message : FieldFault → Text
  | missing => "field required (type=value_error.missing)"
  | null => "none is not an allowed value (type=type_error.none.not_allowed)"
  | notText => "str type expected (type=type_error.str)"
  | notInteger => "value is not a valid integer (type=type_error.integer)"
  | notBoolean => "value could not be parsed to a boolean (type=type_error.bool)"

end FieldFault

inductive Fault
  | pattern (fault : PatternFault)
  | missingKey (key : Text)
  | notIterable (kind : Text)
  | notContainer (kind : Text)
  | noOperation (kind operation : Text)
  | noProduct (kind : Text)
  | notNumeric (kind : Text)
  | badNumeral (written : Text)
  | longNumeral (digits : Nat)
  | infiniteNumber
  | undefinedNumber
  | notSearchable (kind : Text)
  | notText (kind : Text)
  | pairLength (index length : Nat)
  | notPair (index : Nat)
  | notKey (kind : Text)
  | notDocument (kind : Text)
  | deepDocument (part : Text)
  | malformedDocument
  | deepValue
  | longInteger
  | notWritable (kind : Text)
  | notJoinable (index : Nat) (kind : Text)
  | notJoined
  | notPath (kind : Text)
  | notPathPart (kind : Text)
  | file (fault : FileFault) (path : Text)
  | badDescriptor
  | negativeDescriptor
  | decode (fault : DecodeFault)
  | raised (text : Text)
  | importRaised (text : Text)
  | systemRaised (text : Text)
  | interrupted
  | request (model : Text) (fields : List (Text × FieldFault))
deriving DecidableEq, Repr

namespace Fault

def kindOf (kind : Text) : Text := '\'' :: kind ++ "'"

def headline (count : Nat) : Text :=
  if count = 1 then " validation error for " else " validation errors for "

def fieldLines (field : Text × FieldFault) : Text :=
  '\n' :: field.1 ++ "\n  " ++ field.2.message

def message : Fault → Text
  | pattern fault => fault.message
  | missingKey key => Text.quoted key
  | notIterable kind => kindOf kind ++ " object is not iterable"
  | notContainer kind => "argument of type " ++ kindOf kind ++ " is not iterable"
  | noOperation kind operation =>
    kindOf kind ++ " object has no attribute " ++ kindOf operation
  | noProduct kind => "unsupported operand type(s) for *: " ++ kindOf kind ++ " and 'int'"
  | notNumeric kind =>
    "int() argument must be a string, a bytes-like object or a real number, not " ++ kindOf kind
  | badNumeral written => "invalid literal for int() with base 10: " ++ Text.quoted written
  | longNumeral digits => Text.tooManyDigits digits
  | infiniteNumber => "cannot convert float infinity to integer"
  | undefinedNumber => "cannot convert float NaN to integer"
  | notSearchable kind => "expected string or bytes-like object, got " ++ kindOf kind
  | notText kind => "can only concatenate str (not \"" ++ kind ++ "\") to str"
  | pairLength index length =>
    "dictionary update sequence element #" ++ Text.ofNat index ++ " has length " ++
      Text.ofNat length ++ "; 2 is required"
  | notPair index =>
    "cannot convert dictionary update sequence element #" ++ Text.ofNat index ++ " to a sequence"
  | notKey kind => "unhashable type: " ++ kindOf kind
  | notDocument kind => "the JSON object must be str, bytes or bytearray, not " ++ kind
  | deepDocument part =>
    "maximum recursion depth exceeded while decoding a JSON " ++ part ++ " from a unicode string"
  | malformedDocument => "Expecting value"
  | deepValue => "maximum recursion depth exceeded while calling a Python object"
  | longInteger =>
    "Exceeds the limit (" ++ Text.ofNat Text.mostDigits ++
      " digits) for integer string conversion; use sys.set_int_max_str_digits() to increase the limit"
  | notWritable kind => "write() argument must be str, not " ++ kind
  | notJoinable index kind =>
    "sequence item " ++ Text.ofNat index ++ ": expected str instance, " ++ kind ++ " found"
  | notJoined => "can only join an iterable"
  | notPath kind => "expected str, bytes or os.PathLike object, not " ++ kind
  | notPathPart kind =>
    "join() argument must be str, bytes, or os.PathLike object, not " ++ kindOf kind
  | file fault path => fault.message path
  | badDescriptor => "[Errno 9] Bad file descriptor"
  | negativeDescriptor => "negative file descriptor"
  | decode fault => fault.message
  | raised text => text
  | importRaised text => text
  | systemRaised text => text
  | interrupted => "interrupted"
  | request model fields =>
    Text.ofNat fields.length ++ headline fields.length ++ model ++ fields.flatMap fieldLines

end Fault

end SasMigration
