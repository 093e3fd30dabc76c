import Typewright.Fault
import Typewright.Value.Table

/-!
# Configurations

A configuration gives every *setting* a value, and keeps what was configured without being a
setting apart, as *custom* values. Settings hold values of any kind; those whose default is a truth
value are *flags*. Custom values are a table, unless a value of another kind was put in its place.
-/

namespace Typewright

/-- The settings. -/
inductive Setting where
  /-- What comes before the name of an enum. -/
  | enumPrefix
  /-- What comes after the name of an enum. -/
  | enumSuffix
  /-- What comes before the name of a model. -/
  | modelPrefix
  /-- What comes after the name of a model. -/
  | modelSuffix
  /-- What comes before the name of a composite type. -/
  | typePrefix
  /-- What comes after the name of a composite type. -/
  | typeSuffix
  /-- The namespace that holds the type of annotated fields. -/
  | annotationSpace
  /-- The namespace that annotations are qualified with. -/
  | namespaceType
  /-- The type inside the namespace that annotations index. -/
  | useType
  /-- The comment at the head of a file. -/
  | headerComment
  /-- The shape of models. -/
  | modelType
  /-- The shape of enums. -/
  | enumType
  /-- How a point in time is represented. -/
  | dateType
  /-- How an integer of any size is represented. -/
  | bigIntType
  /-- How a decimal number is represented. -/
  | decimalType
  /-- How bytes are represented. -/
  | bytesType
  /-- Code after the header. -/
  | prefixCode
  /-- Code at the end. -/
  | suffixCode
  /-- The file of the declarations. -/
  | output
  /-- The file of the schemas. -/
  | zodOutput
  /-- The file of the data access. -/
  | pgOutput
  /-- The variable that holds the address of the database. -/
  | pgEnvVar
  | optionalRelations
  /-- Whether relations are left out. -/
  | omitRelations
  /-- Whether what may be null is optional. -/
  | optionalNullables
  /-- Whether the code is tidied. -/
  | formatOutput
  /-- Whether schemas refuse scalars that are not registered. -/
  | strictValidationScalars
  deriving DecidableEq, Repr

namespace Setting

/-- Every setting, in order. -/
def all : List Setting :=
  [enumPrefix, enumSuffix, modelPrefix, modelSuffix, typePrefix, typeSuffix, annotationSpace,
    namespaceType, useType, headerComment, modelType, enumType, dateType, bigIntType, decimalType,
    bytesType, prefixCode, suffixCode, output, zodOutput, pgOutput, pgEnvVar, optionalRelations,
    omitRelations, optionalNullables, formatOutput, strictValidationScalars]

/-- The name of a setting: words in small letters with underscores between. -/
def name : Setting → String
  | enumPrefix => "enum_prefix"
  | enumSuffix => "enum_suffix"
  | modelPrefix => "model_prefix"
  | modelSuffix => "model_suffix"
  | typePrefix => "type_prefix"
  | typeSuffix => "type_suffix"
  | annotationSpace => "namespace"
  | namespaceType => "namespace_type"
  | useType => "use_type"
  | headerComment => "header_comment"
  | modelType => "model_type"
  | enumType => "enum_type"
  | dateType => "date_type"
  | bigIntType => "big_int_type"
  | decimalType => "decimal_type"
  | bytesType => "bytes_type"
  | prefixCode => "prefix_code"
  | suffixCode => "suffix_code"
  | output => "output"
  | zodOutput => "zod_output"
  | pgOutput => "pg_output"
  | pgEnvVar => "pg_env_var"
  | optionalRelations => "optional_relations"
  | omitRelations => "omit_relations"
  | optionalNullables => "optional_nullables"
  | formatOutput => "format_output"
  | strictValidationScalars => "strict_validation_scalars"

/-- The default of a setting. -/
def default : Setting → Value
  | enumPrefix | enumSuffix | modelPrefix | modelSuffix | typePrefix | typeSuffix => .str ""
  | annotationSpace | namespaceType | useType => .null
  | headerComment => .str "This file was auto-generated by schema-typegen"
  | modelType => .str "interface"
  | enumType => .str "stringUnion"
  | dateType => .str "Date"
  | bigIntType => .str "bigint"
  | decimalType => .str "Decimal"
  | bytesType => .str "Buffer"
  | prefixCode | suffixCode | output | zodOutput | pgOutput => .null
  | pgEnvVar => .str "DATABASE_URL"
  | optionalRelations => .bool true
  | omitRelations | optionalNullables | formatOutput | strictValidationScalars => .bool false

/-- Whether the setting is a flag. -/
def isFlag (s : Setting) : Bool := s.default.kind == .bool

/-- The setting of a name. -/
def ofName? (n : String) : Option Setting := all.find? (·.name == n)

/-- The name under which custom values are given. -/
def customName : String := "custom"

theorem mem_all (s : Setting) : s ∈ all := by cases s <;> decide

theorem ofName?_name (s : Setting) : ofName? s.name = some s := by cases s <;> decide

theorem ofName?_customName : ofName? customName = none := by decide

end Setting

/-- The custom values of a configuration. -/
inductive Custom where
  /-- Values under names. -/
  | table (t : Table)
  /-- What was put in the place of a table. -/
  | other (v : Value)

namespace Custom

/-- The custom values that a value is. -/
def ofValue (v : Value) : Custom :=
  match v with
  | .object es => .table (Table.ofEntries es)
  | v => .other v

/-- The table of custom values, which may have been given as anything made of pairs. -/
def toTable : Custom → Except Misuse Table
  | table t => .ok t
  | other v => Table.ofValue v

/-- What going through custom values meets: their names. -/
def names : Custom → Except Misuse (List Value)
  | table t => .ok (t.map (·.1))
  | other v => v.elements

end Custom

/-- A configuration. -/
structure Config where
  /-- The value of each setting. -/
  value : Setting → Value
  /-- The custom values. -/
  custom : Custom

namespace Config

/-- The configuration in which nothing is configured. -/
def default : Config := ⟨Setting.default, .table []⟩

/-- Whether a setting is set. -/
def flag (c : Config) (s : Setting) : Bool := (c.value s).truthy

/-- A configuration with one setting changed. -/
def set (c : Config) (s : Setting) (v : Value) : Config :=
  { c with value := fun t => if t = s then v else c.value t }

/-- A configuration with what a name stands for changed. Other names change nothing. -/
def setNamed (c : Config) (name : String) (v : Value) : Config :=
  if name = Setting.customName then { c with custom := .ofValue v }
  else match Setting.ofName? name with
    | some s => c.set s v
    | none => c

/-- The settings as entries, in order. -/
def settingEntries (c : Config) : Entries := Setting.all.map fun s => (s.name, c.value s)

end Config

/-! ## Shapes and representations -/

/-- The shapes of models. -/
def modelShapes : List String := ["interface", "type"]

/-- The shapes of enums. -/
def enumShapes : List String := ["stringUnion", "enum", "object"]

/-- The settings for representations, each with what it may be made of. -/
def representations : List (Setting × List String) :=
  [(.dateType, ["Date", "string", "number"]),
   (.bigIntType, ["bigint", "string", "number"]),
   (.decimalType, ["Decimal", "string", "number"]),
   (.bytesType, ["Buffer", "BufferObject", "string", "number[]"])]

/-- The member of a list of words that a value is. -/
def wordOf? (words : List String) (v : Value) : Option String :=
  v.str?.bind fun s => words.find? (· == s)

end Typewright
