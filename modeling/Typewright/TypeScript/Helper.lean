import Typewright.Value

/-!
# Helper types

Some scalars are represented by types that the language does not have. The generated file declares
those it uses, so that it needs no imports.
-/

namespace Typewright.TypeScript

/-- A type that a generated file may have to declare. -/
inductive Helper where
  /-- Bytes as data. -/
  | bufferObject
  /-- A decimal number. -/
  | decimal
  | jsonValue
  deriving DecidableEq, Repr

namespace Helper

/-- Every helper type, in the order of declaration. -/
def all : List Helper := [bufferObject, decimal, jsonValue]

/-- The name of a helper type. -/
def name : Helper → String
  | bufferObject => "BufferObject"
  | decimal => "Decimal"
  | jsonValue => "JsonValue"

/-- The declaration of a helper type. -/
def declaration : Helper → String
  | bufferObject =>
      "type BufferObject = \x7b type: \"Buffer\"; data: number[] \x7d;"
  | decimal => "type Decimal = \x7b valueOf(): string \x7d;"
  | jsonValue =>
      "type JsonValue = string | number | boolean | \x7b [key in string]?: JsonValue \x7d" ++
        " | Array<JsonValue> | null;"

/-- The helper type of a name. -/
def ofName? (s : String) : Option Helper := all.find? (·.name == s)

theorem mem_all (h : Helper) : h ∈ all := by cases h <;> decide

theorem ofName?_name (h : Helper) : ofName? h.name = some h := by cases h <;> decide

end Helper

/-- The helper types of a list, each once, in the order of declaration. -/
def inOrder (used : List Helper) : List Helper := Helper.all.filter used.contains

end Typewright.TypeScript
