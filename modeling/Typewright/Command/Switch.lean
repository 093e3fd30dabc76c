import Typewright.Config

/-!
# Switches of the command line

A *switch* is an argument with dashes. Each has one or more spellings. Some take a value, which may
have to be one of a few words; the others say something by being there.
-/

namespace Typewright.Command

/-- The switches of the command line. -/
inductive Switch where
  /-- Asks for help. -/
  | help
  /-- Asks for the version. -/
  | version
  /-- The address of the document. -/
  | url
  /-- Whether the document comes from standard input. -/
  | stdin
  /-- The file of the configuration. -/
  | config
  /-- A target to generate. -/
  | target
  /-- The file of the declarations. -/
  | output
  /-- The file of the schemas. -/
  | zodOutput
  /-- The file of the data access. -/
  | pgOutput
  /-- The shape of models. -/
  | modelType
  /-- The shape of enums. -/
  | enumType
  /-- Whether what may be null is optional. -/
  | optionalNullables
  /-- Whether relations are left out. -/
  | omitRelations
  | optionalRelations
  /-- Whether the code is tidied. -/
  | format
  /-- Asks for the targets. -/
  | listTargets
  /-- Whether figures are shown. -/
  | verbose
  | logLevel
  deriving DecidableEq, Repr

namespace Switch

/-- Every switch, in order. -/
def all : List Switch :=
  [help, version, url, stdin, config, target, output, zodOutput, pgOutput, modelType, enumType,
    optionalNullables, omitRelations, optionalRelations, format, listTargets, verbose, logLevel]

/-- The spellings of a switch, in order. -/
def spellings : Switch → List String
  | help => ["-h", "--help"]
  | version => ["--version"]
  | url => ["--url"]
  | stdin => ["--stdin"]
  | config => ["--config", "-c"]
  | target => ["--target", "-t"]
  | output => ["--output", "-o"]
  | zodOutput => ["--zod-output"]
  | pgOutput => ["--pg-output"]
  | modelType => ["--model-type"]
  | enumType => ["--enum-type"]
  | optionalNullables => ["--optional-nullables", "--no-optional-nullables"]
  | omitRelations => ["--omit-relations", "--no-omit-relations"]
  | optionalRelations => ["--optional-relations", "--no-optional-relations"]
  | format => ["--format"]
  | listTargets => ["--list-targets"]
  | verbose => ["--verbose", "-v"]
  | logLevel => ["--log-level"]

/-- Whether a switch takes a value. -/
def takesValue : Switch → Bool
  | url | config | target | output | zodOutput | pgOutput | modelType | enumType | logLevel => true
  | _ => false

/-- The words that the value of a switch has to be one of. -/
def choices? : Switch → Option (List String)
  | modelType => some modelShapes
  | enumType => some enumShapes
  | logLevel => some ["DEBUG", "INFO", "WARNING", "ERROR"]
  | _ => none

/-- A switch in messages. -/
def title (s : Switch) : String := String.intercalate "/" s.spellings

/-- Every spelling with its switch, in order. -/
def table : List (String × Switch) := all.flatMap fun s => s.spellings.map fun t => (t, s)

/-- The switch of a spelling. -/
def ofSpelling? (spelling : String) : Option Switch := table.lookup spelling

end Switch

end Typewright.Command
