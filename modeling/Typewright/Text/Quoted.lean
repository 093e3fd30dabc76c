import Typewright.Text.Printable

/-!
# Quoted texts

Two ways of writing a text between quotes.

* `doubleQuoted` writes it for a program: between double quotes, with a backslash before each double
  quote and each backslash, and every other character as it is.
* `literal` writes it for a reader of messages: between single quotes, or double ones when it holds
  a single quote and no double one, with escapes for what cannot be printed.
-/

namespace Typewright.Text

/-! ## Between double quotes -/

/-- The characters of a text with a backslash before each double quote and each backslash. -/
def escapeQuotes : List Char → List Char
  | [] => []
  | c :: rest =>
      if c = '"' ∨ c = '\\' then '\\' :: c :: escapeQuotes rest else c :: escapeQuotes rest

/-- The characters of a text between double quotes. -/
def quoted (cs : List Char) : List Char := '"' :: (escapeQuotes cs ++ ['"'])

/-- A text between double quotes. -/
def doubleQuoted (s : String) : String := String.ofList (quoted s.toList)

/-! ## For messages -/

/-- A number in hexadecimal, with zeros in front up to a width. -/
def hex (width n : Nat) : List Char :=
  let ds := Nat.toDigits 16 n
  List.replicate (width - ds.length) '0' ++ ds

/-- One character of a text between a given kind of quotes. -/
def literalChar (quote : Char) (c : Char) : List Char :=
  if c = quote ∨ c = '\\' then ['\\', c]
  else if c = '\n' then ['\\', 'n']
  else if c = '\r' then ['\\', 'r']
  else if c = '\t' then ['\\', 't']
  else if isPrintable c then [c]
  else if c.toNat < 0x100 then '\\' :: 'x' :: hex 2 c.toNat
  else if c.toNat < 0x10000 then '\\' :: 'u' :: hex 4 c.toNat
  else '\\' :: 'U' :: hex 8 c.toNat

/-- The quotes around a text in messages. -/
def quoteFor (cs : List Char) : Char :=
  if cs.contains '\'' && !cs.contains '"' then '"' else '\''

/-- A text as messages quote it. -/
def literal (s : String) : String :=
  let cs := s.toList
  let quote := quoteFor cs
  String.ofList (quote :: (cs.flatMap (literalChar quote) ++ [quote]))

end Typewright.Text
