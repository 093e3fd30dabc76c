import Typewright.Datamodel
import Typewright.Fault

/-!
# Reading the data model of a document

A document is an object. Its data model stands under `datamodel`, or is the document itself. Models
are read first, then enums, then composite types; what is missing counts as empty, but what is
there must be of the right shape. The first thing that is wrong, in this order, is the fault.
-/

namespace Typewright.Document

/-- The entries of a value that has to be an object. -/
def requireObject (v : Value) (otherwise : Mismatch) : Outcome Entries :=
  match v with
  | .object es => .ok es
  | _ => mismatched otherwise

/-- The value of an entry that has to be there. -/
def requireEntry (es : Entries) (name : String) : Outcome Value :=
  match es.get? name with
  | some v => .ok v
  | none => mismatched (.missingEntry name)

/-- What an entry holds, nothing if it is not there. -/
def listed (es : Entries) (name : String) : Outcome (List Value) :=
  Outcome.ofMisuse (es.getD name (.list [])).elements

/-- The names of fields that an entry lists, none if it is not set. -/
def fieldNames (es : Entries) (name : String) : Outcome (List Value) :=
  Outcome.ofMisuse ((es.getD name .null).orElse (.list [])).elements

/-- The kind that a value names. -/
def fieldKind? (v : Value) : Option FieldKind := v.str?.bind FieldKind.ofWord?

/-- The kind of a field. -/
def fieldKind (es : Entries) (owner : Value) : Outcome FieldKind :=
  match es.get? "kind" with
  | none => mismatched (.noKind owner (.object es))
  | some v =>
    match fieldKind? v with
    | some k => .ok k
    | none => mismatched (.unknownKind v owner (es.getD "name" .null))

/-- A field of a model or composite type. -/
def field (owner : Value) (v : Value) : Outcome Field := do
  let es ← requireObject v (.field owner v)
  let kind ← fieldKind es owner
  match es.get? "name", es.get? "type" with
  | some name, some type =>
    let fromFields ← fieldNames es "relationFromFields"
    let toFields ← fieldNames es "relationToFields"
    return {
      name, kind, type, fromFields, toFields
      isRequired := es.getD "isRequired" (.bool true)
      isList := es.getD "isList" (.bool false)
      documentation := es.getD "documentation" .null
      defaultValue := es.getD "default" .null
      hasDefault := es.getD "hasDefaultValue" (.bool (es.has "default"))
      isId := es.getD "isId" (.bool false)
      isUnique := es.getD "isUnique" (.bool false) }
  | _, _ => mismatched (.noNameOrType owner)

/-- A model or a composite type. -/
def model (v : Value) : Outcome Model := do
  let es ← requireObject v (.declaration "model" v)
  let name ← requireEntry es "name"
  let fields ← (← listed es "fields").mapM (field name)
  return {
    name, fields
    dbName := es.getD "dbName" .null
    documentation := es.getD "documentation" .null }

/-- A value of an enum: the name of an object, and the text of anything else. -/
def enumValue (v : Value) : Outcome Value :=
  match v with
  | .object es => requireEntry es "name"
  | v => .ok (.str v.display)

/-- An enum. -/
def enumeration (v : Value) : Outcome Enumeration := do
  let es ← requireObject v (.declaration "enum" v)
  let values ← (← listed es "values").mapM enumValue
  let name ← requireEntry es "name"
  return { name, values, documentation := es.getD "documentation" .null }

/-- The data model of an object that is one. -/
def datamodel (es : Entries) : Outcome Datamodel := do
  let models ← (← listed es "models").mapM model
  let enums ← (← listed es "enums").mapM enumeration
  let types ← (← listed es "types").mapM model
  return { models, enums, types }

/-- The data model of a document. -/
def read (v : Value) : Outcome Datamodel := do
  let es ← requireObject v (.document v.kind)
  let inner := es.getD "datamodel" v
  let ds ← requireObject inner (.datamodel inner.kind)
  datamodel ds

end Typewright.Document
