import Typewright.Naming
import Typewright.Annotations
import Typewright.Layout
import Typewright.TypeScript.Scalar

/-!
# TypeScript declarations

A data model is generated as declarations: one for each enum, and one with properties for each model
and composite type. The definitions here turn the parts of a data model into declarations; their
text is the matter of `TypeScript.Text`.

The type of a property, a `FieldType`, depends on the kind of its field.

* A scalar that is the first key of a relation has the type of the key it refers to. Otherwise it
  has the type its documentation gives, or the type of its scalar. Its tag has to be registered in
  any case.
* An object is a composite type or a model.
* A value of an enum has the type of the enum, and what is not supported has the type `any`.

What else a property has follows from its field and its type: a relation to a model may be left out
or optional, as configured.
-/

namespace Typewright.TypeScript

/-! ## Shapes -/

/-- The shapes of enums. -/
inductive EnumShape where
  /-- A union of text literals. -/
  | stringUnion
  /-- An enum of the language. -/
  | native
  /-- A constant object, and the type of its values. -/
  | object
  deriving DecidableEq, Repr

/-- The word that configures a shape. -/
def EnumShape.word : EnumShape → String
  | stringUnion => "stringUnion"
  | native => "enum"
  | object => "object"

/-- The shape that a value configures. -/
def EnumShape.ofValue? (v : Value) : Option EnumShape :=
  [EnumShape.stringUnion, .native, .object].find? fun s => v.isStr s.word

theorem EnumShape.ofValue?_eq_some {v : Value} {s : EnumShape} :
    ofValue? v = some s ↔ v = .str s.word := by
  constructor
  · intro h
    exact Value.eq_str_of_find? h
  · rintro rfl
    cases s <;> decide

theorem EnumShape.mem_enumShapes {w : String} : w ∈ enumShapes ↔ ∃ s : EnumShape, w = s.word := by
  constructor
  · intro h
    simp only [enumShapes, List.mem_cons, List.not_mem_nil, or_false] at h
    obtain rfl | rfl | rfl := h
    · exact ⟨stringUnion, rfl⟩
    · exact ⟨native, rfl⟩
    · exact ⟨object, rfl⟩
  · rintro ⟨s, rfl⟩
    cases s <;> decide

/-- The shapes of models. -/
inductive ModelShape where
  | interface
  /-- A name for an object type. -/
  | typeAlias
  deriving DecidableEq, Repr

/-- The word that configures a shape. -/
def ModelShape.word : ModelShape → String
  | interface => "interface"
  | typeAlias => "type"

/-- The shape that a value configures. -/
def ModelShape.ofValue? (v : Value) : Option ModelShape :=
  [ModelShape.interface, .typeAlias].find? fun s => v.isStr s.word

theorem ModelShape.ofValue?_eq_some {v : Value} {s : ModelShape} :
    ofValue? v = some s ↔ v = .str s.word := by
  constructor
  · intro h
    exact Value.eq_str_of_find? h
  · rintro rfl
    cases s <;> decide

theorem ModelShape.mem_modelShapes {w : String} :
    w ∈ modelShapes ↔ ∃ s : ModelShape, w = s.word := by
  constructor
  · intro h
    simp only [modelShapes, List.mem_cons, List.not_mem_nil, or_false] at h
    obtain rfl | rfl := h
    · exact ⟨interface, rfl⟩
    · exact ⟨typeAlias, rfl⟩
  · rintro ⟨s, rfl⟩
    cases s <;> decide

/-! ## Declarations -/

/-- A property of a declaration. -/
structure Property where
  name : Value
  /-- The type, without what makes it a list or nullable. -/
  type : String
  /-- Whether the type is a list. -/
  isList : Value
  /-- Whether the value may be null. -/
  nullable : Bool
  /-- Whether the property may be missing. -/
  isOptional : Value
  /-- The documentation, or null. -/
  comment : Value

/-- The type of a property with the suffix of a list first and then that of a nullable. -/
def Property.expression (p : Property) : String :=
  p.type ++ (if p.isList.truthy then "[]" else "") ++ (if p.nullable then " | null" else "")

/-- The declaration of a model or composite type. -/
structure ModelDeclaration where
  /-- The rendered name. -/
  name : String
  shape : ModelShape
  /-- The properties, in the order of the fields. -/
  properties : List Property

/-- The declaration of an enum. -/
structure EnumDeclaration where
  /-- The rendered name. -/
  name : String
  shape : EnumShape
  values : List Value

/-! ## Types of fields -/

/-- The type of a property, without what makes it a list or nullable. -/
inductive FieldType where
  | composite (name : String)
  | model (name : String)
  /-- The type that a property of a model has. -/
  | key (owner : String) (field : Value)
  | enum (name : String)
  /-- What the documentation says. -/
  | annotated (expression : String)
  /-- What represents a scalar. -/
  | scalar (expression : String)
  /-- Anything. -/
  | any
  deriving Repr

namespace FieldType

/-- The text of a type. -/
def text : FieldType → String
  | composite name => name
  | model name => name
  | key owner field => owner ++ "['" ++ field.display ++ "']"
  | enum name => name
  | annotated expression => expression
  | scalar expression => expression
  | any => "any"

/-- Whether a type is that of a relation to a model. -/
def isRelation : FieldType → Bool
  | model _ => true
  | _ => false

end FieldType

/-- The type of a field that is the first key of a relation. -/
def keyType (n : Naming) (m : Model) (relation : Field) : Outcome FieldType := do
  match ← Outcome.ofMisuse (n.resolve relation.type) with
  | some (.composite name) => return .composite name
  | some (.model name) =>
    match relation.toFields with
    | [] => mismatched (.noReferencedFields m.name relation.name)
    | field :: _ => return .key name field
  | none => mismatched (.unknownModel relation.type)

/-- The type of a scalar field whose expression is given and that is no key. -/
def plainType (c : Config) (f : Field) (expression : String) : Outcome FieldType := do
  if ← Outcome.ofMisuse (Annotations.present f.documentation) then
    let doc ← Outcome.ofMisuse f.documentation.scanned
    return .annotated (Annotations.resolve c doc.toList)
  else return .scalar expression

/-- The type of a scalar field. -/
def scalarFieldType (c : Config) (n : Naming) (m : Model) (f : Field) : Outcome FieldType := do
  let expression ← scalarType c f.type
  match m.relationFor? f.name with
  | some relation => keyType n m relation
  | none => plainType c f expression

/-- The type of a field that refers to a model or composite type. -/
def objectFieldType (n : Naming) (f : Field) : Outcome FieldType := do
  match ← Outcome.ofMisuse (n.resolve f.type) with
  | some (.composite name) => return .composite name
  | some (.model name) => return .model name
  | none => mismatched (.unknownModel f.type)

/-- The type of a field. -/
def fieldType (c : Config) (n : Naming) (m : Model) (f : Field) : Outcome FieldType :=
  match f.kind with
  | .scalar => scalarFieldType c n m f
  | .object => objectFieldType n f
  | .enum => (n.enumName f.type).map .enum
  | .unsupported => .ok .any

/-! ## Properties of fields -/

/-- What makes the property of a field a list. A type from the documentation is the whole type. -/
def listMark (f : Field) : FieldType → Value
  | .annotated _ => .bool false
  | _ => f.isList

/-- What makes the property of a field optional. A relation to a model may be so of itself, and what
may be null may be left out too if configured. -/
def optionalMark (c : Config) (f : Field) (t : FieldType) : Value :=
  (if t.isRelation then c.value .optionalRelations else .bool false).orElse
    (if f.isRequired.truthy then .bool false else c.value .optionalNullables)

/-- The property of a field that has a type. -/
def declare (c : Config) (f : Field) (t : FieldType) : Property where
  name := f.name
  type := t.text
  isList := listMark f t
  nullable := !f.isRequired.truthy
  isOptional := optionalMark c f t
  comment := f.documentation.orElse .null

/-- The property of a field that has a type, none if it is a relation and these are left out. -/
def declare? (c : Config) (f : Field) (t : FieldType) : Option Property :=
  if t.isRelation && c.flag .omitRelations then none else some (declare c f t)

/-- The property of a field, none if it is left out. -/
def property (c : Config) (n : Naming) (m : Model) (f : Field) : Outcome (Option Property) :=
  (fieldType c n m f).map (declare? c f)

/-! ## Declarations of models and enums -/

/-- The properties of a model or composite type. -/
def properties (c : Config) (n : Naming) (m : Model) : Outcome (List Property) := do
  let found ← m.fields.mapM (property c n m)
  return found.filterMap id

/-- The shape of models that is configured. -/
def modelShape (c : Config) : Outcome ModelShape :=
  match ModelShape.ofValue? (c.value .modelType) with
  | some shape => .ok shape
  | none => .error (.unknownOption "modelType" (c.value .modelType))

/-- The shape of enums that is configured. -/
def enumShape (c : Config) : Outcome EnumShape :=
  match EnumShape.ofValue? (c.value .enumType) with
  | some shape => .ok shape
  | none => .error (.unknownOption "enumType" (c.value .enumType))

/-- The declaration of a model or composite type. -/
def modelDeclaration (c : Config) (n : Naming) (m : Model) : Outcome ModelDeclaration := do
  let shape ← modelShape c
  let properties ← properties c n m
  let name ← n.declarationName m.name
  return { name, shape, properties }

/-- The declaration of an enum. -/
def enumDeclaration (c : Config) (n : Naming) (e : Enumeration) : Outcome EnumDeclaration := do
  let shape ← enumShape c
  match ← Outcome.ofMisuse (n.enums.get e.name) with
  | some name => return { name, shape, values := e.values }
  | none => mismatched (.unknownEnum e.name)

/-! ## Helper types in use -/

/-- The items of a list up to the first that fails, that one included. -/
def reached {α β : Type} (step : α → Outcome β) : List α → List α
  | [] => []
  | a :: rest => a :: (if (step a).isOk then reached step rest else [])

/-- The helper type that a field is represented by, even if its type comes from elsewhere. -/
def fieldHelper? (c : Config) (f : Field) : Option Helper :=
  match f.kind with
  | .scalar => helperOfTag? c f.type
  | _ => none

/-- The helper types met while a model or composite type is declared, or until that fails. -/
def modelHelpers (c : Config) (n : Naming) (m : Model) : List Helper :=
  match modelShape c with
  | .ok _ => (reached (property c n m) m.fields).filterMap (fieldHelper? c)
  | .error _ => []

end Typewright.TypeScript
