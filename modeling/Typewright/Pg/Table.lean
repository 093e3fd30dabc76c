import Typewright.Naming

/-!
# Tables

A model is a table with columns: its fields that are no relations to other models. The fields of
the primary key tell one record.
-/

namespace Typewright.Pg

/-- The union of names as text literals; no name at all leaves no value. -/
def unionOfKeys (names : List Value) : String :=
  if names.isEmpty then "never"
  else String.intercalate " | " (names.map fun v => "\"" ++ v.display ++ "\"")

/-- The table of a model. -/
structure Table where
  /-- The rendered name of the model. -/
  name : String
  /-- The name of the table in the database. -/
  tableName : Value
  /-- The fields of the primary key. -/
  primaryKey : List Value
  /-- The columns, in the order of the fields. -/
  columns : List Value

namespace Table

/-- The type with the given properties of the model. -/
def pick (t : Table) (names : List Value) : String :=
  "Pick<" ++ t.name ++ ", " ++ unionOfKeys names ++ ">"

/-- The type of the primary key. -/
def keyType (t : Table) : String := if t.primaryKey.isEmpty then "never" else t.pick t.primaryKey

/-- The type of a whole record. -/
def columnsType (t : Table) : String := t.pick t.columns

end Table

/-- Whether a field is a column: a relation to a model is none, and a composite type is one. -/
def isColumn (n : Naming) (f : Field) : Except Misuse Bool :=
  match f.kind with
  | .object => n.types.has f.type
  | _ => .ok true

/-- The name of a field if it is a column. -/
def column? (n : Naming) (f : Field) : Except Misuse (Option Value) := do
  return if ← isColumn n f then some f.name else none

/-- The table of a model. -/
def table (n : Naming) (m : Model) : Outcome Table := do
  let found ← Outcome.ofMisuse (m.fields.mapM (column? n))
  let name ← n.declarationName m.name
  return {
    name
    tableName := m.tableName
    primaryKey := m.idFields.map (·.name)
    columns := found.filterMap id }

end Typewright.Pg
