import Typewright.TypeScript.File

/-!
# Files made with a record

The helper types of a file are known when all its declarations are made. Until then they are
collected in a *record*: a field adds the helper type that represents it, if there is one, and what
was added stays when a later field cannot be declared. The section of the helper types is made from
the record.

A record is kept for one file. What is in it at the start would be declared too.
-/

namespace Typewright.TypeScript

/-- A step that may fail, and that adds to a record of helper types whether it fails or not. -/
abbrev Recorded (α : Type) := ExceptT Fault (StateM (List Helper)) α

namespace Recorded

variable {α : Type}

/-- The outcome of a step that starts with some record, and the record afterwards. -/
def startingFrom (x : Recorded α) (used : List Helper) : Outcome α × List Helper := x.run.run used

/-- A step that records nothing. -/
def ofOutcome (x : Outcome α) : Recorded α := ExceptT.mk (pure x)

/-- A helper type, if there is one, added to the record. -/
def note (helper : Option Helper) : Recorded Unit := modify (· ++ helper.toList)

end Recorded

open Recorded (ofOutcome note)

/-- The property of a field, none if it is left out. -/
def recordedProperty (c : Config) (n : Naming) (m : Model) (f : Field) :
    Recorded (Option Property) := do
  note (fieldHelper? c f)
  ofOutcome (property c n m f)

/-- The properties of a model or composite type. -/
def recordedProperties (c : Config) (n : Naming) (m : Model) : Recorded (List Property) := do
  let found ← m.fields.mapM (recordedProperty c n m)
  return found.filterMap id

/-- The declaration of a model or composite type. -/
def recordedModel (c : Config) (n : Naming) (m : Model) : Recorded ModelDeclaration := do
  let shape ← ofOutcome (modelShape c)
  let properties ← recordedProperties c n m
  let name ← ofOutcome (n.declarationName m.name)
  return { name, shape, properties }

/-- The declarations of a data model under a naming. -/
def recordedDeclarations (c : Config) (n : Naming) (d : Datamodel) : Recorded Declarations := do
  let enums ← ofOutcome (d.enums.mapM (enumDeclaration c n))
  let models ← d.models.mapM (recordedModel c n)
  let types ← d.types.mapM (recordedModel c n)
  return { enums, models, types }

/-- The text of a file, with the helper types of the record. -/
def recordedFile (c : Config) (n : Naming) (d : Datamodel) : Recorded String := do
  let ds ← recordedDeclarations c n d
  let used ← get
  let before ← ofOutcome (codeSection c .prefixCode)
  let after ← ofOutcome (codeSection c .suffixCode)
  return fileText (headerSection c ++ before ++ helperSection used ++ ds.texts ++ after)

end Typewright.TypeScript
