import Typewright.Value
import Typewright.Double.Shortest
import Typewright.Text.Halves

/-!
# Writing JSON texts

`Json.compact` writes a value on one line and `Json.indented` over several, two spaces deeper for
each list or object around. Empty lists and objects stay on their line. Texts keep every character
that the format lets stand, except where `escaped` is asked for, which writes ASCII only. So what is
written can be encoded if the texts can (`Json.encodes`).
-/

namespace Typewright.Json

/-! ## Texts -/

/-- A numbered escape. -/
def numberedEscapeOf (n : Nat) : List Char := '\\' :: 'u' :: Text.hex 4 n

/-- A character that needs no number: itself, or a backslash and a letter. -/
def shortEscape? (c : Char) : Option (List Char) :=
  match c with
  | '"' => some ['\\', '"']
  | '\\' => some ['\\', '\\']
  | '\n' => some ['\\', 'n']
  | '\r' => some ['\\', 'r']
  | '\t' => some ['\\', 't']
  | '\x08' => some ['\\', 'b']
  | '\x0c' => some ['\\', 'f']
  | _ => none

/-- A character inside a text, control characters being escaped. -/
def plainChar (c : Char) : List Char :=
  match shortEscape? c with
  | some cs => cs
  | none => if c < ' ' then numberedEscapeOf c.toNat else [c]

/-- A character inside a text of ASCII: a character beyond `~` is escaped by its number, or by the
numbers of its two halves. -/
def asciiChar (c : Char) : List Char :=
  match shortEscape? c with
  | some cs => cs
  | none =>
    let n := c.toNat
    if ' ' ≤ c ∧ c ≤ '~' then [c]
    else if n < 0x10000 then numberedEscapeOf n
    else
      numberedEscapeOf (0xD800 + (n - 0x10000) / 0x400) ++
        numberedEscapeOf (0xDC00 + (n - 0x10000) % 0x400)

/-- A text between quotes. -/
def text (s : String) : String := String.ofList ('"' :: (s.toList.flatMap plainChar ++ ['"']))

/-- A text between quotes, in ASCII. -/
def asciiText (s : String) : String := String.ofList ('"' :: (s.toList.flatMap asciiChar ++ ['"']))

/-! ## Values -/

/-- A double: what is not finite is written as a word. -/
def double (d : Double) : String :=
  if d.isNaN then "NaN"
  else if d.isInfinite then (if d.isNegative then "-Infinity" else "Infinity")
  else d.finiteText

/-- A value that serves as a name: a text is written as it is, and a word or a number as it would be
written elsewhere. What cannot be a name has no text. -/
def nameText : Value → String
  | .null => "null"
  | .bool b => if b then "true" else "false"
  | .int n => toString n
  | .double d => double d
  | .str s => s
  | _ => ""

mutual

/-- A value on one line. -/
def compact : Value → String
  | .null => "null"
  | .bool b => if b then "true" else "false"
  | .int n => toString n
  | .double d => double d
  | .str s => text s
  | .list vs => "[" ++ String.intercalate ", " (compactItems vs) ++ "]"
  | .object es => "\x7b" ++ String.intercalate ", " (compactEntries es) ++ "\x7d"

/-- The items of a list. -/
def compactItems : List Value → List String
  | [] => []
  | v :: vs => compact v :: compactItems vs

/-- The entries of an object. -/
def compactEntries : List (String × Value) → List String
  | [] => []
  | (name, v) :: es => (text name ++ ": " ++ compact v) :: compactEntries es

end

/-- A line feed and the indentation of a depth. -/
def newline (depth : Nat) : String := "\n" ++ String.ofList (List.replicate (2 * depth) ' ')

/-- Items between brackets, each on a line of its own one level deeper. -/
def block (depth : Nat) (opening closing : String) (items : List String) : String :=
  if items.isEmpty then opening ++ closing
  else
    opening ++ newline (depth + 1) ++ String.intercalate ("," ++ newline (depth + 1)) items ++
      newline depth ++ closing

mutual

/-- A value over several lines, at a depth. -/
def indentedAt (depth : Nat) : Value → String
  | .list vs => block depth "[" "]" (indentedItems (depth + 1) vs)
  | .object es => block depth "\x7b" "\x7d" (indentedEntries (depth + 1) es)
  | .null => "null"
  | .bool b => if b then "true" else "false"
  | .int n => toString n
  | .double d => double d
  | .str s => text s

/-- The items of a list, at a depth. -/
def indentedItems (depth : Nat) : List Value → List String
  | [] => []
  | v :: vs => indentedAt depth v :: indentedItems depth vs

/-- The entries of an object, at a depth. -/
def indentedEntries (depth : Nat) : List (String × Value) → List String
  | [] => []
  | (name, v) :: es => (text name ++ ": " ++ indentedAt depth v) :: indentedEntries depth es

end

/-- A value over several lines. -/
def indented (v : Value) : String := indentedAt 0 v

/-! ## Encoding -/

mutual

/-- Whether all texts of a value can be encoded. -/
def encodes (h : Text.Halves) : Value → Bool
  | .str s => h.encodes s
  | .list vs => encodesItems h vs
  | .object es => encodesEntries h es
  | .null | .bool _ | .int _ | .double _ => true

/-- Whether all texts of the items of a list can be encoded. -/
def encodesItems (h : Text.Halves) : List Value → Bool
  | [] => true
  | v :: vs => encodes h v && encodesItems h vs

/-- Whether all texts of the entries of an object can be encoded. -/
def encodesEntries (h : Text.Halves) : List (String × Value) → Bool
  | [] => true
  | (name, v) :: es => h.encodes name && encodes h v && encodesEntries h es

end

end Typewright.Json
