import Typewright.TypeScript.Declaration

/-!
# The text of TypeScript declarations

How declarations are written. Properties and values stand on lines of their own, behind a margin of
two spaces; a property with documentation has it in a block before it.
-/

namespace Typewright.TypeScript

/-! ## Enums -/

/-- The members of an enum or constant object, with a text between name and value. -/
def memberLines (between : String) (values : List Value) : String :=
  String.intercalate "," (values.map fun v =>
    "\n  " ++ v.display ++ between ++ v.quoted)

/-- The text of an enum. -/
def EnumDeclaration.text (d : EnumDeclaration) : String :=
  match d.shape with
  | .native => "export enum " ++ d.name ++ " \x7b" ++ memberLines " = " d.values ++ "\n\x7d"
  | .stringUnion =>
      "export type " ++ d.name ++ " = " ++
        String.intercalate " | " (d.values.map Value.quoted) ++ ";"
  | .object =>
      "export const " ++ d.name ++ " = \x7b" ++ memberLines ": " d.values ++
        "\n\x7d as const;\n\nexport type " ++ d.name ++ " = (typeof " ++ d.name ++
        ")[keyof typeof " ++ d.name ++ "];"

/-! ## Models -/

/-- The documentation block of a property, on lines before it. -/
def Property.commentText (p : Property) : String :=
  if p.comment.truthy then "\n" ++ Layout.docComment 2 p.comment.display else ""

/-- The line of a property. -/
def Property.line (p : Property) : String :=
  "\n  " ++ p.name.display ++ (if p.isOptional.truthy then "?" else "") ++ ": " ++
    p.expression ++ ";"

/-- A property with its documentation. -/
def Property.text (p : Property) : String := p.commentText ++ p.line

/-- The text before the properties of a model. -/
def ModelDeclaration.opening (d : ModelDeclaration) : String :=
  match d.shape with
  | .interface => "export interface " ++ d.name ++ " \x7b"
  | .typeAlias => "export type " ++ d.name ++ " = \x7b"

/-- The text after the properties of a model. -/
def ModelDeclaration.closing (d : ModelDeclaration) : String :=
  match d.shape with
  | .interface => "\n\x7d"
  | .typeAlias => "\n\x7d;"

/-- The text of a model or composite type. -/
def ModelDeclaration.text (d : ModelDeclaration) : String :=
  d.opening ++ String.join (d.properties.map Property.text) ++ d.closing

end Typewright.TypeScript
