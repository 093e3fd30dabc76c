import Typewright.Target

/-!
# Generation

`generate` makes the file of a target for a data model: all of it, or nothing and the fault. With
the code come the remarks on the data model and some figures.

A `Session` keeps one target and configuration over several generations, and with them the context
of the last generation that had a naming. A generation that goes on starts from a context of its
own; one that has no naming leaves the last context as it is.
-/

namespace Typewright

/-! ## Results -/

/-- The figures that go with generated code. -/
structure Figures where
  target : Target
  /-- The number of models. -/
  models : Nat
  /-- The number of enums. -/
  enums : Nat
  /-- The number of composite types. -/
  types : Nat
  /-- The number of fields. -/
  fields : Nat
  /-- The names of the helper types, in ascending order. -/
  helpers : List String

/-- Generated code. -/
structure Generated where
  code : String
  /-- The remarks on the data model. -/
  warnings : List String
  figures : Figures

/-- Where generation stopped. -/
inductive Stage where
  /-- The document was read. -/
  | reading
  /-- The code was made. -/
  | generating
  deriving DecidableEq, Repr

/-- What precedes the wording of a fault. -/
def Stage.heading : Stage → String
  | reading => "Invalid datamodel: "
  | generating => "Code generation failed: "

/-- A generation that failed. -/
structure Failed where
  /-- Where it stopped. -/
  stage : Stage
  /-- Why. -/
  fault : Fault

/-- The wording of a failed generation. -/
def Failed.message (f : Failed) : String := f.stage.heading ++ f.fault.message

/-- The result of a generation. -/
abbrev Result := Except Failed Generated

/-! ## Generating -/

/-- The figures of a data model. -/
def figures (t : Target) (d : Datamodel) (used : List TypeScript.Helper) : Figures where
  target := t
  models := d.models.length
  enums := d.enums.length
  types := d.types.length
  fields := d.fieldCount
  helpers := (TypeScript.inOrder used).map (·.name)

/-- Code as it is configured to be handed out. -/
def finish (c : Config) (code : String) : String :=
  if c.flag .formatOutput then Layout.tidy code else code

/-- What is handed out for a data model under a naming, with the text of the file. -/
def handOut (t : Target) (c : Config) (n : Naming) (d : Datamodel) (code : String) : Generated where
  code := finish c code
  warnings := (Remark.all t c d).map Remark.message
  figures := figures t d (t.usedHelpers c n d)

/-- The code of a target under a naming. -/
def generateNamed (t : Target) (directory : List String) (c : Config) (n : Naming)
    (d : Datamodel) : Outcome Generated :=
  (t.file directory c n d).map (handOut t c n d)

/-- A fault met while code was made. -/
def whileGenerating {α : Type} : Outcome α → Except Failed α
  | .ok a => .ok a
  | .error f => .error ⟨.generating, f⟩

/-- The code of a target for a data model. -/
def generate (t : Target) (directory : List String) (c : Config) (d : Datamodel) : Result :=
  whileGenerating do
    let n ← Naming.build c d
    generateNamed t directory c n d

/-! ## Sessions -/

/-- What a generation leaves behind: its naming, and the helper types that it recorded. -/
structure Context where
  naming : Naming
  /-- The helper types. -/
  used : List TypeScript.Helper

/-- A target with a configuration, used for several generations. -/
structure Session where
  target : Target
  /-- The configuration, which every generation looks at anew. -/
  config : Config
  /-- What the last generation with a naming left behind. -/
  last : Option Context

namespace Session

/-- A session before its first generation. -/
def start (t : Target) (c : Config) : Session := ⟨t, c, none⟩

/-- A session with one name of its configuration changed. -/
def configure (s : Session) (name : String) (v : Value) : Session :=
  { s with config := s.config.setNamed name v }

/-- The helper types that the last generation recorded, none before the first. -/
def used (s : Session) : List TypeScript.Helper := (s.last.map (·.used)).getD []

/-- What a session hands out for a data model, with the text of the file. The figures are taken
from what the generation has left behind. -/
def handOut (s : Session) (d : Datamodel) (code : String) : Generated where
  code := finish s.config code
  warnings := (Remark.all s.target s.config d).map Remark.message
  figures := figures s.target d s.used

/-- The next generation of a session. It leaves its own context behind as soon as it has a naming,
and records the helper types there until it ends or fails. -/
def run (s : Session) (directory : List String) (d : Datamodel) : Session × Result :=
  match Naming.build s.config d with
  | .error f => (s, .error ⟨.generating, f⟩)
  | .ok n =>
      let (outcome, used) := (s.target.recordedFile directory s.config n d).startingFrom []
      let next := { s with last := some ⟨n, used⟩ }
      (next, whileGenerating (outcome.map (next.handOut d)))

end Session

end Typewright
