import Typewright.Config
import Typewright.Datamodel
import Typewright.Value.Order

/-!
# Names of declarations

A data model has three *parts* with names: models, enums and composite types. A declaration is
rendered under its raw name between the affixes of its part, which has two. A *name map* lists the
raw names of a part with their rendered names, each raw name once. A *naming* is the three maps of a
data model.

No two entries of a naming may have one rendered name. `clash?` finds the first rendered name that
several entries have, and `Naming.build` refuses it.
-/

namespace Typewright

/-! ## Parts of a data model -/

/-- The parts of a data model whose members have names. -/
inductive Part where
  | models
  | enums
  /-- The composite types. -/
  | types
  deriving DecidableEq, Repr

namespace Part

/-- Every part, in the order in which names are compared. -/
def all : List Part := [models, enums, types]

/-- The setting for what comes before the names of a part. -/
def before : Part → Setting
  | models => .modelPrefix
  | enums => .enumPrefix
  | types => .typePrefix

/-- The setting for what comes after the names of a part. -/
def after : Part → Setting
  | models => .modelSuffix
  | enums => .enumSuffix
  | types => .typeSuffix

theorem mem_all (p : Part) : p ∈ all := by cases p <;> decide

end Part

/-- The raw names of a part, in order. -/
def Datamodel.names (d : Datamodel) : Part → List Value
  | .models => d.models.map (·.name)
  | .enums => d.enums.map (·.name)
  | .types => d.types.map (·.name)

/-! ## Name maps -/

/-- A raw name between affixes. -/
def affixed (before name after : Value) : String :=
  before.display ++ name.display ++ after.display

/-- The rendered name of a raw name of a part. -/
def Config.rendered (c : Config) (p : Part) (name : Value) : String :=
  affixed (c.value p.before) name (c.value p.after)

/-- An entry of a name map. -/
structure NameEntry where
  /-- The canonical form of the raw name. -/
  key : Key
  raw : Value
  rendered : String

/-- The raw names of a part with their rendered names. -/
abbrev NameMap := List NameEntry

namespace NameMap

/-- A name added to a map: a name that is there keeps its place and its first spelling. -/
def insert (m : NameMap) (new : NameEntry) : NameMap :=
  match m with
  | [] => [new]
  | e :: rest =>
      if e.key = new.key then { e with rendered := new.rendered } :: rest
      else e :: insert rest new

/-- The entry of a raw name. -/
def entryOf (before after name : Value) : Except Misuse NameEntry := do
  return ⟨← name.key, name, affixed before name after⟩

/-- The map of raw names between two affixes. -/
def build (names : List Value) (before after : Value) : Except Misuse NameMap := do
  let entries ← names.mapM (entryOf before after)
  return entries.foldl insert []

/-- The map of a part of a data model. -/
def ofPart (c : Config) (d : Datamodel) (p : Part) : Except Misuse NameMap :=
  build (d.names p) (c.value p.before) (c.value p.after)

/-- The rendered name of a key. -/
def find? (m : NameMap) (k : Key) : Option String :=
  (List.find? (fun e => e.key == k) m).map (·.rendered)

/-- The rendered name of a raw name. -/
def get (m : NameMap) (raw : Value) : Except Misuse (Option String) := do
  return m.find? (← raw.key)

/-- Whether a raw name is in the map. -/
def has (m : NameMap) (raw : Value) : Except Misuse Bool := do
  return (m.find? (← raw.key)).isSome

end NameMap

/-! ## Clashes -/

section Clashes

variable {α : Type} [BEq α]

/-- The raw names that have a rendered name, of rendered names with their raw names. -/
def owners (entries : List (α × Value)) (rendered : α) : List Value :=
  (entries.filter fun e => e.1 == rendered).map (·.2)

/-- The first rendered name that several entries have, with their raw names. -/
def clash? (entries : List (α × Value)) : Option (α × List Value) :=
  entries.findSome? fun e =>
    let raws := owners entries e.1
    if raws.length > 1 then some (e.1, raws) else none

end Clashes

/-- The texts of values that are all texts. -/
def allTexts? (vs : List Value) : Option (List String) := vs.mapM Value.str?

/-- Raw names in ascending order, which have to be texts to be shown. -/
def sortedTexts (raws : List Value) : Except Misuse (List String) :=
  match allTexts? raws with
  | some ss => .ok (ss.mergeSort fun a b => !decide (b < a))
  | none => do
      let sorted ← Value.ascending raws
      throw (.notJoinable 0 ((sorted.head?.map Value.kind).getD .null))

/-- Refuses entries of which several have one rendered name, shown in given words. -/
def checkClashes {α : Type} [BEq α] (shown : α → String) (entries : List (α × Value)) :
    Outcome Unit :=
  match clash? entries with
  | none => .ok ()
  | some (rendered, raws) =>
    match sortedTexts raws with
    | .ok sorted => .error (.collision (shown rendered) sorted)
    | .error m => .error (.misuse m)

/-! ## Namings -/

/-- The rendered names of a data model. -/
structure Naming where
  models : NameMap
  enums : NameMap
  /-- The composite types. -/
  types : NameMap

/-- What a field of object kind refers to, under its rendered name. -/
inductive Reference where
  /-- A composite type. -/
  | composite (name : String)
  | model (name : String)

namespace Naming

/-- The naming of a data model, clashes not looked at. -/
def ofDatamodel (c : Config) (d : Datamodel) : Except Misuse Naming := do
  let models ← NameMap.ofPart c d .models
  let enums ← NameMap.ofPart c d .enums
  let types ← NameMap.ofPart c d .types
  return { models, enums, types }

/-- The map of a part. -/
def part (n : Naming) : Part → NameMap
  | .models => n.models
  | .enums => n.enums
  | .types => n.types

/-- Every entry: models, enums, composite types. -/
def entries (n : Naming) : List NameEntry := Part.all.flatMap n.part

/-- Every rendered name with its raw name. -/
def renderings (n : Naming) : List (String × Value) := n.entries.map fun e => (e.rendered, e.raw)

/-- The naming of a data model that has no clashes. -/
def build (c : Config) (d : Datamodel) : Outcome Naming := do
  let n ← Outcome.ofMisuse (ofDatamodel c d)
  checkClashes id n.renderings
  return n

/-- The rendered name of a model or composite type; models come first. -/
def declarationName (n : Naming) (raw : Value) : Outcome String := do
  let model ← Outcome.ofMisuse (n.models.get raw)
  match model with
  | some name =>
    if name ≠ "" then return name
    else fromTypes
  | none => fromTypes
where
  /-- The rendered name of a composite type. -/
  fromTypes : Outcome String := do
    match ← Outcome.ofMisuse (n.types.get raw) with
    | some name => return name
    | none => mismatched (.unnamedModel raw)

/-- What a raw name refers to: a composite type before a model, and only what has a name to show. -/
def resolve (n : Naming) (raw : Value) : Except Misuse (Option Reference) := do
  let composite ← n.types.get raw
  let model ← n.models.get raw
  return match composite.filter (· ≠ ""), model.filter (· ≠ "") with
    | some name, _ => some (.composite name)
    | none, some name => some (.model name)
    | none, none => none

/-- The rendered name of an enum, if it has one to show. -/
def enumName (n : Naming) (raw : Value) : Outcome String := do
  match (← Outcome.ofMisuse (n.enums.get raw)).filter (· ≠ "") with
  | some name => return name
  | none => mismatched (.unknownEnum raw)

end Naming

end Typewright
