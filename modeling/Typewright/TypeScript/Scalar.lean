import Typewright.Config
import Typewright.Datamodel
import Typewright.TypeScript.Helper

/-!
# Types of scalars

Every registered scalar has a type expression. Those of four scalars are configured. A configured
expression with a bar in it is put in parentheses, so that what is appended binds to all of it.
-/

namespace Typewright.TypeScript

/-- Whether a value that can be searched has the bar as a member. -/
def holdsBar (v : Value) : Except Misuse Bool :=
  match v with
  | .str s => .ok (s.toList.contains '|')
  | .list vs => .ok (vs.any (·.isStr "|"))
  | .object es => .ok (Entries.has es "|")
  | v => .error (.notSearchable v.kind)

/-- A type expression, in parentheses if it is a union. -/
def groupUnion (v : Value) : Except Misuse Value := do
  if ← holdsBar v then return .str ("(" ++ v.display ++ ")") else return v

/-- The setting that represents a scalar, or the type it always has. -/
def representation : Scalar → Setting ⊕ String
  | .string => .inr "string"
  | .boolean => .inr "boolean"
  | .int => .inr "number"
  | .float => .inr "number"
  | .json => .inr "JsonValue"
  | .dateTime => .inl .dateType
  | .bigInt => .inl .bigIntType
  | .decimal => .inl .decimalType
  | .bytes => .inl .bytesType

/-- The type expression of a registered scalar. -/
def scalarExpression (c : Config) (s : Scalar) : Except Misuse Value :=
  match representation s with
  | .inl setting => groupUnion (c.value setting)
  | .inr type => .ok (.str type)

/-- The type expression of a scalar tag. -/
def tagExpression (c : Config) (tag : Value) : Outcome Value :=
  match Scalar.ofTag? tag with
  | some s => Outcome.ofMisuse (scalarExpression c s)
  | none => mismatched (.unknownScalar tag)

/-- The type of a scalar field: its expression, which has to be one that can be looked up among the
helper types. -/
def scalarType (c : Config) (tag : Value) : Outcome String := do
  let v ← tagExpression c tag
  match v with
  | .str s => return s
  | v => .error (.misuse (.unhashable v.kind))

/-- The helper type that a scalar tag is represented by. -/
def helperOfTag? (c : Config) (tag : Value) : Option Helper :=
  match scalarType c tag with
  | .ok s => Helper.ofName? s
  | .error _ => none

end Typewright.TypeScript
