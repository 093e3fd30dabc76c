import Typewright.Config
import Typewright.Text.Blank
import Typewright.Text.Lines

/-!
# Warnings about a configuration

`Config.warnings` lists what is doubtful in a configuration: shapes that are not known, unusual
representations, settings without effect, and custom values. A representation is usual when it is a
known word or two of them with a bar between.
-/

namespace Typewright

/-- What is doubtful in a configuration. -/
inductive Warning where
  /-- A shape is not known. -/
  | invalid (setting : Setting) (found : Value)
  /-- A representation is made of something else than one or two known words. -/
  | unusual (setting : Setting) (found : String)
  /-- Annotations are to index a type, and the namespace that holds it is not set. -/
  | typeWithoutSpace
  /-- Relations are both left out and optional. -/
  | noEffect
  /-- A custom value. -/
  | unrecognized (name : String)

/-- The wording of a warning. -/
def Warning.message : Warning → String
  | invalid setting found => "Invalid " ++ setting.name ++ ": " ++ found.display
  | unusual setting found => "Unusual " ++ setting.name ++ ": " ++ found
  | typeWithoutSpace => "use_type is set but namespace is not"
  | noEffect => "optional_relations has no effect when omit_relations is set"
  | unrecognized name => "Unrecognized option: " ++ name

/-- The members of a union, without the blanks around them. -/
def unionMembers (s : String) : List String :=
  (Text.split '|' s.toList).map fun cs => Text.trim (String.ofList cs)

/-- Whether a representation is a known word or two of them. -/
def isUsual (allowed : List String) (s : String) : Bool :=
  let members := unionMembers s
  members.length ≤ 2 && members.all allowed.contains

namespace Config

/-- The warning about a shape. -/
def shapeWarnings (c : Config) (s : Setting) (shapes : List String) : List Warning :=
  if (wordOf? shapes (c.value s)).isSome then [] else [.invalid s (c.value s)]

/-- The warning about a representation. -/
def representationWarnings (c : Config) (p : Setting × List String) :
    Except Misuse (List Warning) := do
  let s ← (c.value p.1).withOperation "split"
  return if isUsual p.2 s then [] else [.unusual p.1 s]

/-- Everything that is doubtful in a configuration. -/
def warnings (c : Config) : Except Misuse (List Warning) := do
  let shapes := c.shapeWarnings .modelType modelShapes ++ c.shapeWarnings .enumType enumShapes
  let forms ← representations.mapM c.representationWarnings
  let space := if c.flag .useType && !c.flag .annotationSpace then [.typeWithoutSpace] else []
  let effect := if c.flag .omitRelations && c.flag .optionalRelations then [.noEffect] else []
  let names ← c.custom.names
  return shapes ++ forms.flatten ++ space ++ effect ++ names.map fun v => .unrecognized v.display

end Config

end Typewright
