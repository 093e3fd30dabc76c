import Typewright.Value.Same

/-!
# The data model

A data model has models, enums and composite types, each in the order of the document. A model and
a composite type are both a `Model`: a name with fields. A field is a scalar, refers to a model or
composite type, refers to an enum, or is of a type that is not supported.

Names and flags are values of any kind, as the document gives them.
-/

namespace Typewright

/-! ## Kinds and scalars -/

/-- What a field holds. -/
inductive FieldKind where
  | scalar
  /-- A model or a composite type. -/
  | object
  /-- A value of an enum. -/
  | enum
  /-- Something that is not supported. -/
  | unsupported
  deriving DecidableEq, Repr

namespace FieldKind

/-- The word for a kind in documents. -/
def word : FieldKind → String
  | scalar => "scalar"
  | object => "object"
  | enum => "enum"
  | unsupported => "unsupported"

/-- Every kind. -/
def all : List FieldKind := [scalar, object, enum, unsupported]

/-- The kind of a word. -/
def ofWord? (s : String) : Option FieldKind := all.find? (·.word == s)

end FieldKind

/-- The registered scalars. -/
inductive Scalar where
  /-- A text. -/
  | string
  /-- A truth value. -/
  | boolean
  /-- An integer. -/
  | int
  /-- A floating-point number. -/
  | float
  /-- A JSON value. -/
  | json
  /-- A point in time. -/
  | dateTime
  /-- An integer of any size. -/
  | bigInt
  /-- A decimal number. -/
  | decimal
  | bytes
  deriving DecidableEq, Repr

namespace Scalar

/-- The tag of a scalar in documents. -/
def tag : Scalar → String
  | string => "String"
  | boolean => "Boolean"
  | int => "Int"
  | float => "Float"
  | json => "Json"
  | dateTime => "DateTime"
  | bigInt => "BigInt"
  | decimal => "Decimal"
  | bytes => "Bytes"

/-- Every scalar. -/
def all : List Scalar :=
  [string, boolean, int, float, json, dateTime, bigInt, decimal, bytes]

/-- The scalar of a tag, if it is registered. -/
def ofTag? (v : Value) : Option Scalar := all.find? fun s => v.isStr s.tag

theorem ofTag?_tag (s : Scalar) : ofTag? (.str s.tag) = some s := by cases s <;> decide

theorem ofTag?_eq_some {v : Value} {s : Scalar} : ofTag? v = some s ↔ v = .str s.tag := by
  constructor
  · intro h
    exact Value.eq_str_of_find? h
  · rintro rfl
    exact ofTag?_tag s

end Scalar

/-! ## Fields, models and enums -/

/-- A field of a model or composite type. -/
structure Field where
  name : Value
  /-- What the field holds. -/
  kind : FieldKind
  /-- A scalar tag, or the name of what the field refers to. -/
  type : Value
  /-- Whether the field always has a value. -/
  isRequired : Value
  /-- Whether the field holds a list. -/
  isList : Value
  /-- The documentation, or null. -/
  documentation : Value
  /-- For a relation, the fields of this model that hold the key. -/
  fromFields : List Value
  /-- For a relation, the fields of the other model that are the key. -/
  toFields : List Value
  /-- The default value, or null. -/
  defaultValue : Value
  /-- Whether there is a default value. -/
  hasDefault : Value
  /-- Whether the field belongs to the primary key. -/
  isId : Value
  /-- Whether no two records share a value of the field. -/
  isUnique : Value

/-- The registered scalar of a scalar field. -/
def Field.scalar? (f : Field) : Option Scalar :=
  match f.kind with
  | .scalar => Scalar.ofTag? f.type
  | _ => none

/-- A model or a composite type. -/
structure Model where
  name : Value
  /-- The fields, in order. -/
  fields : List Field
  /-- The name of the table, or null. -/
  dbName : Value
  /-- The documentation, or null. -/
  documentation : Value

namespace Model

/-- The name of the table: its own if it has one and that of the model otherwise. -/
def tableName (m : Model) : Value := m.dbName.orElse m.name

/-- The first field of a name. -/
def field? (m : Model) (name : Value) : Option Field := m.fields.find? (·.name.same name)

/-- The relation that a field is the first key of, if there is one. -/
def relationFor? (m : Model) (name : Value) : Option Field :=
  m.fields.find? fun f =>
    match f.fromFields with
    | [] => false
    | v :: _ => v.same name

/-- The fields of the primary key. -/
def idFields (m : Model) : List Field := m.fields.filter (·.isId.truthy)

end Model

/-- An enum. -/
structure Enumeration where
  name : Value
  /-- The values, in order. -/
  values : List Value
  /-- The documentation, or null. -/
  documentation : Value

/-- A data model. -/
structure Datamodel where
  models : List Model
  enums : List Enumeration
  /-- The composite types. -/
  types : List Model

namespace Datamodel

/-- The first model of a name. -/
def model? (d : Datamodel) (name : Value) : Option Model := d.models.find? (·.name.same name)

/-- The first enum of a name. -/
def enum? (d : Datamodel) (name : Value) : Option Enumeration := d.enums.find? (·.name.same name)

/-- The number of fields of all models and composite types. -/
def fieldCount (d : Datamodel) : Nat :=
  (d.models ++ d.types).foldl (fun count m => count + m.fields.length) 0

end Datamodel

end Typewright
