import TermSnap.Json.Reader
import TermSnap.Value.Show
/-!
# Faults

Every way an operation can stop, as one type; `Fault.category` and `Fault.message` are fixed here
once, so the rest of the library only names causes.
-/

namespace TermSnap

open Json

/-- Why an operation stopped. -/
inductive Fault where
  /-- A list index outside the list. -/
  | indexOutOfRange
  /-- A text index outside the text. -/
  | textIndexOutOfRange
  /-- An integer index beyond the range of machine indices. -/
  | indexTooLarge
  /-- The screen has no rows to scroll. -/
  | popFromEmpty
  /-- A list index that is not an integer. -/
  | badListIndex (kind : Kind)
  /-- A text index that is not an integer. -/
  | badTextIndex (kind : Kind)
  /-- An index applied to a value that has no elements to index. -/
  | notSubscriptable (kind : Kind)
  /-- A key that an object lacks. -/
  | missingKey (key : Value)
  /-- A count that is not an integer numeral. -/
  | notANumeral (text : Text)
  /-- An integer numeral with more digits than the limit. -/
  | tooManyDigits (count : Nat)
  /-- An integer with more digits than the limit, to be written out. -/
  | tooLongToShow
  /-- A size or bound that is not an integer. -/
  | notAnInteger (kind : Kind)
  /-- A value read as an integer that is neither text nor a number. -/
  | intArgument (kind : Kind)
  /-- Two values that an arithmetic operator does not combine. -/
  | unsupportedOperands (op : String) (left right : Kind)
  /-- A text, list or tuple extended by a value of another sort. -/
  | concatOnly (container other : Kind)
  /-- A value that cannot be negated. -/
  | badUnary (kind : Kind)
  /-- Two values that cannot be ordered. -/
  | notComparable (op : String) (left right : Kind)
  /-- An integer beyond the range of doubles. -/
  | tooLargeForFloat
  /-- A value walked through that has no elements. -/
  | notIterable (kind : Kind)
  /-- A frame that is no sequence. -/
  | notUnpackable (kind : Kind)
  /-- A frame with fewer than two parts. -/
  | tooFewToUnpack (count : Nat)
  /-- A frame with more than two parts. -/
  | tooManyToUnpack
  /-- Output that is neither text nor a container. -/
  | noLength (kind : Kind)
  /-- A nonempty value given where text is expected. -/
  | notText (kind : Kind)
  /-- A document given as a value that is no text. -/
  | notJsonText (kind : Kind)
  /-- A value that cannot be a key. -/
  | unhashable (kind : Kind)
  /-- A command that is no object, asked for one of its fields. -/
  | noAttribute (kind : Kind) (name : String)
  /-- A colour spread into the three arguments of `function` that has no elements. -/
  | starNotIterable (function : String) (kind : Kind)
  /-- A colour with fewer than three elements; `names` are the arguments left without one. -/
  | missingArguments (function : String) (names : List String)
  /-- A colour with more than three elements. -/
  | tooManyArguments (function : String) (expected given : Nat)
  /-- A JSON text with a syntax problem. -/
  | malformed (problem : Problem) (place : Place)
  /-- A console command of an unknown name. -/
  | unknownCommand (name : Value)
  /-- A file that does not exist. -/
  | missingFile (path : Text)
  /-- A path that names a directory. -/
  | isDirectory (path : Text)
  /-- A path that goes on past a file as if it were a directory. -/
  | notADirectory (path : Text)
  /-- A path, or a part of one, longer than the system allows. -/
  | nameTooLong (path : Text)
  /-- A path that holds a null character. -/
  | nullByte
  /-- A path that is no text. -/
  | notAPath (kind : Kind)
  /-- A file number below zero. -/
  | negativeDescriptor
  /-- A file number that names no file open for reading. -/
  | badDescriptor
  /-- A search for text in text with something else to search for. -/
  | notSubstring (kind : Kind)
  /-- Joining texts, the item at this position being something else. -/
  | joinItem (index : Nat) (kind : Kind)
  /-- Writing to a file something that is no text. -/
  | writeNotText (kind : Kind)
  /-- A path that cannot be written as bytes: from position `start` up to `stop` it holds
  surrogates, the first of them `code`, that stand for no byte. -/
  | unwritable (code start stop : Nat)

namespace Fault

/-- The class of a fault, as the protocol reports it. -/
def category : Fault → String
  | indexOutOfRange | textIndexOutOfRange | indexTooLarge | popFromEmpty => "IndexError"
  | notANumeral _ | tooManyDigits _ | tooLongToShow | tooFewToUnpack _ | tooManyToUnpack
  | unknownCommand _ | nullByte | negativeDescriptor => "ValueError"
  | missingKey _ => "KeyError"
  | tooLargeForFloat => "OverflowError"
  | malformed _ _ => "JSONDecodeError"
  | missingFile _ => "FileNotFoundError"
  | isDirectory _ => "IsADirectoryError"
  | notADirectory _ => "NotADirectoryError"
  | nameTooLong _ | badDescriptor => "OSError"
  | unwritable .. => "UnicodeEncodeError"
  | noAttribute _ _ => "AttributeError"
  | _ => "TypeError"

/-- Names in quotes, joined as a list in prose: `'a'`, `'a' and 'b'`, `'a', 'b', and 'c'`. -/
def quotedNames : List String → String
  | [] => ""
  | [a] => "'" ++ a ++ "'"
  | [a, b] => "'" ++ a ++ "' and '" ++ b ++ "'"
  | names => String.intercalate ", " (names.dropLast.map fun a => "'" ++ a ++ "'") ++
      ", and '" ++ names.getLastD "" ++ "'"

/-- The text of a fault. -/
def message : Fault → String
  | indexOutOfRange => "list index out of range"
  | textIndexOutOfRange => "string index out of range"
  | indexTooLarge => "cannot fit 'int' into an index-sized integer"
  | popFromEmpty => "pop from empty list"
  | badListIndex k => "list indices must be integers or slices, not " ++ k.name
  | badTextIndex k => "string indices must be integers, not '" ++ k.name ++ "'"
  | notSubscriptable k => "'" ++ k.name ++ "' object is not subscriptable"
  | missingKey key => key.repr
  | notANumeral text =>
    "invalid literal for int() with base 10: " ++ String.ofList ((Text.quote text).toList.take 200)
  | tooManyDigits count =>
    "Exceeds the limit (4300 digits) for integer string conversion: value has " ++
      toString count ++ " digits; use sys.set_int_max_str_digits() to increase the limit"
  | tooLongToShow =>
    "Exceeds the limit (4300 digits) for integer string conversion; " ++
      "use sys.set_int_max_str_digits() to increase the limit"
  | notAnInteger k => "'" ++ k.name ++ "' object cannot be interpreted as an integer"
  | intArgument k =>
    "int() argument must be a string, a bytes-like object or a real number, not '" ++
      k.name ++ "'"
  | unsupportedOperands op l r =>
    "unsupported operand type(s) for " ++ op ++ ": '" ++ l.name ++ "' and '" ++ r.name ++ "'"
  | concatOnly c o =>
    "can only concatenate " ++ c.name ++ " (not \"" ++ o.name ++ "\") to " ++ c.name
  | badUnary k => "bad operand type for unary -: '" ++ k.name ++ "'"
  | notComparable op l r =>
    "'" ++ op ++ "' not supported between instances of '" ++ l.name ++ "' and '" ++
      r.name ++ "'"
  | tooLargeForFloat => "int too large to convert to float"
  | notIterable k => "'" ++ k.name ++ "' object is not iterable"
  | notUnpackable k => "cannot unpack non-iterable " ++ k.name ++ " object"
  | tooFewToUnpack count =>
    "not enough values to unpack (expected 2, got " ++ toString count ++ ")"
  | tooManyToUnpack => "too many values to unpack (expected 2)"
  | noLength k => "object of type '" ++ k.name ++ "' has no len()"
  | notText k => "expected string or bytes-like object, got '" ++ k.name ++ "'"
  | notJsonText k => "the JSON object must be str, bytes or bytearray, not " ++ k.name
  | unhashable k => "unhashable type: '" ++ k.name ++ "'"
  | noAttribute k name => "'" ++ k.name ++ "' object has no attribute '" ++ name ++ "'"
  | starNotIterable function k =>
    "export." ++ function ++ "() argument after * must be an iterable, not " ++ k.name
  | missingArguments function names =>
    function ++ "() missing " ++ toString names.length ++ " required positional argument" ++
      (if names.length = 1 then "" else "s") ++ ": " ++ quotedNames names
  | tooManyArguments function expected given =>
    function ++ "() takes " ++ toString expected ++ " positional arguments but " ++
      toString given ++ " were given"
  | malformed problem place => Failure.describe problem place
  | unknownCommand name => "unknown buffer op: " ++ name.repr
  | missingFile path => "[Errno 2] No such file or directory: " ++ Text.quote path
  | isDirectory path => "[Errno 21] Is a directory: " ++ Text.quote path
  | notADirectory path => "[Errno 20] Not a directory: " ++ Text.quote path
  | nameTooLong path => "[Errno 36] File name too long: " ++ Text.quote path
  | nullByte => "embedded null byte"
  | notAPath k => "expected str, bytes or os.PathLike object, not " ++ k.name
  | negativeDescriptor => "negative file descriptor"
  | badDescriptor => "[Errno 9] Bad file descriptor"
  | notSubstring k => "'in <string>' requires string as left operand, not " ++ k.name
  | joinItem i k => "sequence item " ++ toString i ++ ": expected str instance, " ++ k.name ++ " found"
  | writeNotText k =>
    "write() argument must be str, not " ++ (if k = .none then "None" else k.name)
  | unwritable code start stop =>
    (if stop = start + 1 then
      "'utf-8' codec can't encode character '\\u" ++ String.ofList (Text.hexDigits 4 code) ++
        "' in position " ++ toString start
    else "'utf-8' codec can't encode characters in position " ++ toString start ++ "-" ++
      toString (stop - 1)) ++ ": surrogates not allowed"

def ofFailure : Failure → Fault
  | .malformed problem place => malformed problem place
  | .tooManyDigits count => tooManyDigits count

def ofNumeral (text : Text) : Text.NumeralError → Fault
  | .malformed => notANumeral text
  | .tooManyDigits count => tooManyDigits count

end Fault

/-- Reads an integer numeral, failing as a count does. -/
def readCount (text : Text) : Except Fault Int :=
  (Text.readInt text).mapError (Fault.ofNumeral text)

end TermSnap
