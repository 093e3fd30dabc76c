import Typewright.Text.Pattern
import Typewright.Config
import Typewright.Json.Writer

/-!
# Type annotations in documentation

The documentation of a field may say which type the field has, in one of two ways.

* A *bracket*: `[X]` or `![X]` at the start of a line, after blanks. The type is `X`, which goes up to
  the last `]` of the line.
* A *tag*: `@type {X}` anywhere, with blanks allowed around `X`. The type is `X`, which has no line
  feed, and goes up to the first brace that is followed by a blank or by nothing.

A tag with a type in it wins over a bracket. `Annotations.resolve` gives the type expression.
-/

namespace Typewright.Annotations

open Text (Pattern)

/-! ## Brackets -/

/-- A type in brackets, with the mark of a literal type or without. It goes up to the last closing
bracket of the line. -/
def bracketPattern : Pattern :=
  .seq (.maybe (.char '!')) <| .seq (.char '[') <| .seq (.keep (.many (· != '\n'))) (.char ']')

/-- The mark of a literal type. -/
def markPattern : Pattern := .char '!'

/-- The type in the first brackets at the start of a line. -/
def bracket? (doc : List Char) : Option (List Char) :=
  (bracketPattern.indented.find? doc).map (·.kept)

/-- Whether a mark of a literal type stands at the start of a line. -/
def hasLiteralMark (doc : List Char) : Bool := (markPattern.indented.find? doc).isSome

/-! ## Tags -/

/-- Whether a tag ends here: a closing brace comes next, blanks aside, with a blank or nothing
after. -/
def endsTag (cs : List Char) : Bool :=
  match Text.dropBlanks cs with
  | '\x7d' :: [] => true
  | '\x7d' :: c :: _ => Text.isBlank c
  | _ => false

/-- The text up to the place where the tag ends. -/
def tagBody? : List Char → Option (List Char)
  | [] => none
  | c :: rest =>
      if endsTag (c :: rest) then some []
      else if c = '\n' then none
      else (tagBody? rest).map (c :: ·)

/-- The word that opens a tag. -/
def tagWord : List Char := ['@', 't', 'y', 'p', 'e']

/-- The type of a tag whose word has just been read. -/
def afterTagWord? (cs : List Char) : Option (List Char) :=
  match Text.dropBlanks cs with
  | '\x7b' :: inner => tagBody? (Text.dropBlanks inner)
  | _ => none

/-- The type of the first tag. -/
def tag? : List Char → Option (List Char)
  | [] => none
  | c :: rest =>
      match (tagWord.isPrefixOf? (c :: rest)).bind afterTagWord? with
      | some body => some body
      | none => tag? rest

/-! ## Types -/

/-- Whether a documentation has an annotation. -/
def isAnnotated (doc : List Char) : Bool := (bracket? doc).isSome || (tag? doc).isSome

/-- Whether the documentation of a field has an annotation. -/
def present (doc : Value) : Except Misuse Bool := do
  if doc.truthy then
    let s ← doc.scanned
    return isAnnotated s.toList
  else return false

/-- A type in parentheses. -/
def grouped (body : List Char) : String := String.ofList ('(' :: (body ++ [')']))

/-- The type expression of a bracket: as it is written where the mark says so or no namespace is
configured, and looked up in the namespace otherwise. -/
def qualified (c : Config) (isLiteral : Bool) (body : List Char) : String :=
  if isLiteral || !c.flag .namespaceType then grouped body
  else if c.flag .useType then
    (c.value .annotationSpace).display ++ "." ++ (c.value .useType).display ++ "[" ++
      Json.asciiText (String.ofList body) ++ "]"
  else (c.value .namespaceType).display ++ "." ++ String.ofList body

/-- The type expression of a bracket with a type in it. -/
def ofBracket (c : Config) (doc : List Char) : String :=
  match bracket? doc with
  | none => "unknown"
  | some [] => "unknown"
  | some body => qualified c (hasLiteralMark doc) body

/-- The type expression that a documentation gives. -/
def resolve (c : Config) (doc : List Char) : String :=
  match tag? doc with
  | none => ofBracket c doc
  | some [] => ofBracket c doc
  | some body => grouped body

end Typewright.Annotations
