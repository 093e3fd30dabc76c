import Typewright.Config
import Typewright.Datamodel
import Typewright.Fault

/-!
# Schema expressions

The schema of a field is a base expression with modifiers around it: for a list, for a value that
may be null, and for a value that may be missing, in this order.
-/

namespace Typewright.Zod

/-! ## Base expressions -/

/-- The expression that takes anything. -/
def anything : String := "z.any()"

/-- The expression of a registered scalar. -/
def scalarSchema (c : Config) (f : Field) : Scalar → String
  | .string => "z.string()"
  | .boolean => "z.boolean()"
  | .int => "z.number().int()"
  | .float => "z.number()"
  | .json => if f.defaultValue.isStr "[]" then "z.array(z.any())" else anything
  | .dateTime =>
      if (c.value .dateType).isStr "string" then "z.string().datetime()" else "z.date()"
  | .bigInt => "z.bigint()"
  | .decimal => "z.number()"
  | .bytes => "z.instanceof(Buffer)"

/-- The expression of a scalar field. A tag that is not registered takes anything, or is refused if
so configured. -/
def tagSchema (c : Config) (f : Field) : Outcome String :=
  match Scalar.ofTag? f.type with
  | some s => .ok (scalarSchema c f s)
  | none =>
    if c.flag .strictValidationScalars then mismatched (.unknownScalar f.type)
    else .ok anything

/-- The base expression of a field whose enum, if it is of one, has a given schema. -/
def baseSchema (c : Config) (f : Field) (enumSchema : String) : Outcome String :=
  match f.kind with
  | .enum => .ok enumSchema
  | .scalar => tagSchema c f
  | .object => .ok anything
  | .unsupported => .ok anything

/-! ## Modifiers -/

/-- What is appended for a value that may be null or missing. -/
def ending (c : Config) (f : Field) : String :=
  if f.isRequired.truthy then ""
  else ".nullable()" ++ (if c.flag .optionalNullables then ".optional()" else "")

/-- A base expression with the modifiers of a field. -/
def modified (c : Config) (f : Field) (base : String) : String :=
  (if f.isList.truthy then "z.array(" ++ base ++ ")" else base) ++ ending c f

/-- A base of any kind with the modifiers of a field. A list is extended by the characters of what
is appended, and other kinds cannot be extended. -/
def modifiedValue (c : Config) (f : Field) (base : Value) : Outcome Value :=
  match base with
  | .str s => .ok (.str (modified c f s))
  | v =>
    if f.isList.truthy then .ok (.str (modified c f v.display))
    else if ending c f = "" then .ok v
    else match v with
      | .list vs => .ok (.list (vs ++ Value.charsOf (ending c f)))
      | v => .error (.misuse (.notExtensible v.kind))

/-- The base of a field whose enum may have no schema; the type of the field then stands for it. -/
def baseValue (c : Config) (f : Field) (enumSchema : Value) : Outcome Value :=
  match f.kind with
  | .enum => .ok (enumSchema.orElse f.type)
  | _ => (baseSchema c f "").map .str

/-- The base of a field and the base with its modifiers. A list is extended where it stands, so that
both are the extended one. -/
def baseAndModified (c : Config) (f : Field) (enumSchema : Value) : Outcome (Value × Value) := do
  let base ← baseValue c f enumSchema
  let full ← modifiedValue c f base
  return match base, full with
    | .list _, .list _ => (full, full)
    | _, _ => (base, full)

end Typewright.Zod
