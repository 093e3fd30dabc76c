import Typewright.TypeScript.Recorded
import Typewright.Zod.File
import Typewright.Pg.File

/-!
# Targets

A *target* is what can be generated from a data model: declarations, schemas, or data access. Each
has a name, a generator with a name of its own, and an extension for its files, and each looks for
what is doubtful in a data model.
-/

namespace Typewright

/-- What can be generated. -/
inductive Target where
  /-- Declarations of types. -/
  | typeScript
  /-- Schemas that check values. -/
  | zod
  /-- Data access. -/
  | pg
  deriving DecidableEq, Repr

namespace Target

/-- The name of a target. -/
def name : Target → String
  | typeScript => "typescript"
  | zod => "zod"
  | pg => "pg"

/-- The name of the generator of a target. -/
def generatorName : Target → String
  | typeScript => "TypeScriptGenerator"
  | zod => "ZodGenerator"
  | pg => "PgGenerator"

/-- The extension of the files of a target. -/
def extension (_ : Target) : String := ".ts"

/-- The setting that holds the file of a target. -/
def outputSetting : Target → Setting
  | typeScript => .output
  | zod => .zodOutput
  | pg => .pgOutput

/-- The text of the file of a target, seen from a working directory. -/
def file (t : Target) (directory : List String) (c : Config) (n : Naming) (d : Datamodel) :
    Outcome String :=
  match t with
  | typeScript => TypeScript.file c n d
  | zod => Zod.file c n d
  | pg => Pg.file directory c n d

/-- The text of the file of a target, made with a record of helper types. -/
def recordedFile (t : Target) (directory : List String) (c : Config) (n : Naming)
    (d : Datamodel) : TypeScript.Recorded String :=
  match t with
  | typeScript => TypeScript.recordedFile c n d
  | zod => .ofOutcome (Zod.file c n d)
  | pg => .ofOutcome (Pg.file directory c n d)

/-- The helper types that the generation of a target meets. -/
def usedHelpers (t : Target) (c : Config) (n : Naming) (d : Datamodel) : List TypeScript.Helper :=
  match t with
  | typeScript => TypeScript.usedHelpers c n d
  | zod => []
  | pg => []

end Target

/-! ## Remarks -/

/-- What is doubtful in a data model. -/
inductive Remark where
  /-- A model or composite type has no fields. -/
  | noFields (model : Value)
  /-- The type of a field is not supported. -/
  | unsupported (model field type : Value)
  | noValues (enum : Value)
  /-- A scalar tag is not registered, so that a schema takes anything. -/
  | unknownScalar (type model field : Value)
  /-- A model has no primary key. -/
  | noKey (model : Value)

/-- The wording of a remark. -/
def Remark.message : Remark → String
  | noFields model => "Model '" ++ model.display ++ "' has no fields"
  | unsupported model field type =>
      "Unsupported type in " ++ model.display ++ "." ++ field.display ++ ": " ++ type.display
  | noValues enum => "Enum '" ++ enum.display ++ "' has no values"
  | unknownScalar type model field =>
      "Unknown scalar type " ++ type.display ++ " in " ++ model.display ++ "." ++ field.display ++
        " validates as z.any()"
  | noKey model =>
      "Model " ++ model.display ++ " has no id field; its unique lookups are unusable"

namespace Remark

/-- The remarks on a model or composite type. -/
def ofModel (m : Model) : List Remark :=
  (if m.fields.isEmpty then [noFields m.name] else []) ++
    (m.fields.filter (·.kind == .unsupported)).map fun f => unsupported m.name f.name f.type

/-- The remarks that concern every target. -/
def general (d : Datamodel) : List Remark :=
  (d.models ++ d.types).flatMap ofModel ++
    (d.enums.filter (·.values.isEmpty)).map fun e => noValues e.name

/-- The fields of a model whose scalar tag is not registered. -/
def unknownScalars (m : Model) : List Remark :=
  (m.fields.filter fun f => f.kind == .scalar && f.scalar?.isNone).map fun f =>
    unknownScalar f.type m.name f.name

/-- The remarks that concern one target. -/
def special (t : Target) (c : Config) (d : Datamodel) : List Remark :=
  match t with
  | .typeScript => []
  | .zod => if c.flag .strictValidationScalars then [] else d.models.flatMap unknownScalars
  | .pg => (d.models.filter (·.idFields.isEmpty)).map fun m => noKey m.name

/-- Everything that is doubtful in a data model when a target is generated. -/
def all (t : Target) (c : Config) (d : Datamodel) : List Remark := general d ++ special t c d

end Remark

end Typewright
