import Typewright.Text.LetterCase

/-!
# Spellings of names in configurations

A name may be spelled with capitals at the starts of its words or in small letters with
underscores. `Spelling.canonical` writes an underscore between a small letter or digit and the
capital after it and then turns everything into small letters. One name has a second spelling that
follows no rule.
-/

namespace Typewright.Spelling

/-- Spellings that follow no rule, with what they stand for. -/
def aliases : List (String × String) := [("prettier", "format_output")]

/-- A small letter of ASCII or a digit. -/
def endsWord (c : Char) : Bool := ('a' ≤ c && c ≤ 'z') || ('0' ≤ c && c ≤ '9')

/-- A capital of ASCII. -/
def startsWord (c : Char) : Bool := 'A' ≤ c && c ≤ 'Z'

/-- The characters of a name with an underscore where a capital follows a small letter or digit. -/
def separate : List Char → List Char
  | [] => []
  | [c] => [c]
  | c :: d :: rest =>
      if endsWord c && startsWord d then c :: '_' :: separate (d :: rest)
      else c :: separate (d :: rest)

/-- The name that a spelling stands for. -/
def canonical (name : String) : String :=
  match aliases.lookup name with
  | some target => target
  | none => Text.lower (String.ofList (separate name.toList))

end Typewright.Spelling
