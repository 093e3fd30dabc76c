import Typewright.Naming
import Typewright.Section
import Typewright.Zod.Schema

/-!
# Schema files

A file of schemas starts with an import. Then come the enums, each as a schema over its values, and
the models, each as an object schema with an entry for every field that is no object. Composite
types and relations are not checked by schemas.
-/

namespace Typewright.Zod

/-- The import at the head of a file. -/
def importLine : String := "import \x7b z \x7d from \"zod\";"

/-- The schema of an enum. -/
structure EnumSchema where
  /-- The rendered name. -/
  name : String
  values : List Value

/-- An entry of an object schema. -/
structure Entry where
  /-- The name of the field. -/
  name : Value
  /-- The expression. -/
  schema : String

/-- The schema of a model. -/
structure ObjectSchema where
  /-- The rendered name. -/
  name : String
  /-- The entries, in the order of the fields. -/
  entries : List Entry

/-- The schema of an enum. -/
def enumSchema (n : Naming) (e : Enumeration) : Outcome EnumSchema := do
  let name ← n.enumName e.name
  return { name, values := e.values }

/-- The entry of a field, none if it is an object. -/
def entry (c : Config) (n : Naming) (f : Field) : Outcome (Option Entry) :=
  match f.kind with
  | .object => .ok none
  | .enum => (n.enumName f.type).map fun enum => some ⟨f.name, modified c f enum⟩
  | _ => (baseSchema c f "").map fun base => some ⟨f.name, modified c f base⟩

/-- The schema of a model. -/
def objectSchema (c : Config) (n : Naming) (m : Model) : Outcome ObjectSchema := do
  let name ← n.declarationName m.name
  let found ← m.fields.mapM (entry c n)
  return { name, entries := found.filterMap id }

/-- The text of the schema of an enum. -/
def EnumSchema.text (s : EnumSchema) : String :=
  "export const " ++ s.name ++ " = z.enum([" ++
    String.intercalate ", " (s.values.map Value.quoted) ++ "]);"

/-- The text of the schema of a model. -/
def ObjectSchema.text (s : ObjectSchema) : String :=
  "export const " ++ s.name ++ " = z.object(\x7b" ++
    String.intercalate "," (s.entries.map fun e => "\n  " ++ e.name.display ++ ": " ++ e.schema) ++
    "\n\x7d);"

/-- The sections of a file. -/
def sections (c : Config) (n : Naming) (d : Datamodel) : Outcome (List String) := do
  let enums ← d.enums.mapM (enumSchema n)
  let models ← d.models.mapM (objectSchema c n)
  return [importLine] ++ enums.map EnumSchema.text ++ models.map ObjectSchema.text

/-- The text of a file. -/
def file (c : Config) (n : Naming) (d : Datamodel) : Outcome String := do
  return fileText (← sections c n d)

end Typewright.Zod
