import Typewright.TypeScript.Text
import Typewright.Section

/-!
# TypeScript files

A file is made of sections with an empty line between each two: the header comment, code from the
configuration, the helper types in use, the enums, the models, the composite types, and again code
from the configuration. What is not configured or not in use is no section.
-/

namespace Typewright.TypeScript

/-- The declarations of the helper types in use as a section, if there are any. -/
def helperSection (used : List Helper) : List String :=
  match inOrder used with
  | [] => []
  | helpers => [String.intercalate "\n" (helpers.map Helper.declaration)]

/-- The declarations of a data model. -/
structure Declarations where
  enums : List EnumDeclaration
  models : List ModelDeclaration
  /-- The composite types. -/
  types : List ModelDeclaration

/-- The texts of declarations, in the order of the file. -/
def Declarations.texts (ds : Declarations) : List String :=
  ds.enums.map EnumDeclaration.text ++ ds.models.map ModelDeclaration.text ++
    ds.types.map ModelDeclaration.text

/-- The declarations of a data model under a naming. -/
def declarations (c : Config) (n : Naming) (d : Datamodel) : Outcome Declarations := do
  let enums ← d.enums.mapM (enumDeclaration c n)
  let models ← d.models.mapM (modelDeclaration c n)
  let types ← d.types.mapM (modelDeclaration c n)
  return { enums, models, types }

/-- The helper types met while the declarations are made, or until that fails. -/
def usedHelpers (c : Config) (n : Naming) (d : Datamodel) : List Helper :=
  match d.enums.mapM (enumDeclaration c n) with
  | .ok _ =>
      (reached (modelDeclaration c n) (d.models ++ d.types)).flatMap (modelHelpers c n)
  | .error _ => []

/-- The sections of a file. -/
def sections (c : Config) (n : Naming) (d : Datamodel) : Outcome (List String) := do
  let ds ← declarations c n d
  let before ← codeSection c .prefixCode
  let after ← codeSection c .suffixCode
  return headerSection c ++ before ++ helperSection (usedHelpers c n d) ++ ds.texts ++ after

/-- The text of a file. -/
def file (c : Config) (n : Naming) (d : Datamodel) : Outcome String := do
  return fileText (← sections c n d)

end Typewright.TypeScript
