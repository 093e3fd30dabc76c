import Typewright.Misuse
import Typewright.Value.Display

/-!
# Faults

A *fault* is why a document is not read or a target is not generated. There are four causes: the
document does not match what the rules know (`Mismatch`), two names render to one identifier, an
option has an unknown value, or a value is misused. `Fault.message` words each of them.
-/

namespace Typewright

/-- How a document, or a reference inside it, fails to match what the rules know. -/
inductive Mismatch where
  /-- The document is no object. -/
  | document (kind : Kind)
  /-- The data model of the document is no object. -/
  | datamodel (kind : Kind)
  /-- A model, an enum or a composite type is no object. -/
  | declaration (role : String) (found : Value)
  /-- A field is no object. -/
  | field (owner found : Value)
  /-- An entry that has to be there is not. -/
  | missingEntry (name : String)
  /-- A field has no kind. -/
  | noKind (owner found : Value)
  /-- A field has a kind that is not known. -/
  | unknownKind (kind owner name : Value)
  /-- A field has no name or no type. -/
  | noNameOrType (owner : Value)
  /-- A model or composite type has no rendered name. -/
  | unnamedModel (name : Value)
  /-- A scalar tag is not registered. -/
  | unknownScalar (tag : Value)
  /-- A reference to a model is to none that is declared. -/
  | unknownModel (name : Value)
  /-- A reference to an enum is to none that is declared. -/
  | unknownEnum (name : Value)
  /-- A relation does not say which fields it refers to. -/
  | noReferencedFields (model relation : Value)

/-- The wording of a mismatch. -/
def Mismatch.message : Mismatch → String
  | document kind => "Expected a JSON object, got " ++ kind.word
  | datamodel kind => "Expected datamodel to be an object, got " ++ kind.word
  | declaration role found => "Expected " ++ role ++ " to be an object, got " ++ found.literal
  | field owner found =>
      "Expected field in " ++ owner.display ++ " to be an object, got " ++ found.literal
  | missingEntry name => "Missing required key in datamodel: " ++ Text.literal name
  | noKind owner found => "Field in " ++ owner.display ++ " has no kind: " ++ found.literal
  | unknownKind kind owner name =>
      "Unknown field kind: " ++ kind.display ++ " (" ++ owner.display ++ "." ++ name.display ++ ")"
  | noNameOrType owner => "Field in " ++ owner.display ++ " needs a name and a type"
  | unnamedModel name => "Could not find name for model " ++ name.display
  | unknownScalar tag => "Unknown scalar type: " ++ tag.display
  | unknownModel name => "Unknown model name: " ++ name.display
  | unknownEnum name => "Unknown enum name: " ++ name.display
  | noReferencedFields model relation =>
      "Relation " ++ model.display ++ "." ++ relation.display ++ " has no referenced fields"

/-- Why a document is not read or a target is not generated. -/
inductive Fault where
  /-- The document does not match what the rules know. -/
  | mismatch (m : Mismatch)
  /-- Several raw names, in ascending order, render to one identifier. -/
  | collision (rendered : String) (raws : List String)
  /-- An option has a value that is not known. -/
  | unknownOption (option : String) (found : Value)
  /-- A value is misused. -/
  | misuse (m : Misuse)

/-- The wording of a fault. -/
def Fault.message : Fault → String
  | mismatch m => m.message
  | collision rendered raws =>
      "Names " ++ String.intercalate ", " raws ++ " all render to '" ++ rendered ++ "'"
  | unknownOption option found => "Unknown " ++ option ++ ": " ++ found.display
  | misuse m => m.message

/-- The outcome of a step that may fail. -/
abbrev Outcome (α : Type) := Except Fault α

/-- A step whose only fault is a misuse. -/
def Outcome.ofMisuse {α : Type} : Except Misuse α → Outcome α
  | .ok a => .ok a
  | .error m => .error (.misuse m)

/-- A fault that is a mismatch. -/
def mismatched {α : Type} (m : Mismatch) : Outcome α := .error (.mismatch m)

end Typewright
