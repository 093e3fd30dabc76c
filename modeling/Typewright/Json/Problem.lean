import Typewright.Value

/-!
# What is wrong with a JSON text

A `Json.Problem` says what the reader missed, and `Json.Failure` where. The place is kept as the
number of characters from it to the end of the text, since that is what a reader of the rest of a
text knows; the wording counts from the start.
-/

namespace Typewright.Json

/-- What the reader of a JSON text missed. -/
inductive Problem where
  /-- No value starts here. -/
  | value
  /-- No name of an entry starts here. -/
  | name
  /-- No colon follows a name. -/
  | colon
  /-- No comma or closing bracket follows an item. -/
  | comma
  /-- Something follows the value. -/
  | extra
  /-- A text that starts here has no end. -/
  | unterminated
  /-- A control character stands inside a text. -/
  | control
  /-- A backslash is followed by no escape. -/
  | escape
  /-- A numbered escape lacks its four digits. -/
  | numberedEscape
  /-- The text starts with a byte order mark. -/
  | byteOrderMark
  deriving DecidableEq, Repr

/-- The wording of a problem. -/
def Problem.message : Problem → String
  | value => "Expecting value"
  | name => "Expecting property name enclosed in double quotes"
  | colon => "Expecting ':' delimiter"
  | comma => "Expecting ',' delimiter"
  | extra => "Extra data"
  | unterminated => "Unterminated string starting at"
  | control => "Invalid control character at"
  | escape => "Invalid \\escape"
  | numberedEscape => "Invalid \\uXXXX escape"
  | byteOrderMark => "Unexpected UTF-8 BOM (decode using utf-8-sig)"

/-- What holds other values. -/
inductive Container where
  /-- A list. -/
  | array
  | object
  deriving DecidableEq, Repr

/-- The word for what holds other values in messages. -/
def Container.word : Container → String
  | array => "array"
  | object => "object"

/-- A limit of the reader that a text exceeds. -/
inductive Limit where
  /-- An integer has more digits than are read. -/
  | digits (count : Nat)
  /-- A list or an object lies inside more of them than are read. -/
  | depth (container : Container)
  deriving DecidableEq, Repr

/-- The most digits an integer may have. -/
def maxDigits : Nat := 4300

/-- The wording of a limit that is exceeded. -/
def Limit.message : Limit → String
  | digits count =>
      "Exceeds the limit (" ++ toString maxDigits ++
        " digits) for integer string conversion: value has " ++ toString count ++
        " digits; use sys.set_int_max_str_digits() to increase the limit"
  | depth container =>
      "maximum recursion depth exceeded while decoding a JSON " ++ container.word ++
        " from a unicode string"

/-- Why a JSON text was not read. -/
inductive Failure where
  /-- A problem, and how many characters there are from its place to the end. -/
  | malformed (problem : Problem) (remaining : Nat)
  /-- A limit that the text exceeds. -/
  | overLimit (limit : Limit)
  deriving DecidableEq, Repr

/-- The line and the column of a place in a text, both counted from one. -/
def position (text : List Char) (index : Nat) : Nat × Nat :=
  let before := text.take index
  (before.count '\n' + 1, (before.reverse.takeWhile (· ≠ '\n')).length + 1)

/-- The wording of a failure to read a text. -/
def Failure.message (text : List Char) : Failure → String
  | malformed problem remaining =>
      let index := text.length - remaining
      let (line, column) := position text index
      problem.message ++ ": line " ++ toString line ++ " column " ++ toString column ++
        " (char " ++ toString index ++ ")"
  | overLimit limit => limit.message

end Typewright.Json
