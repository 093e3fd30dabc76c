import Typewright.Target
import Typewright.Config.File

/-!
# Registries of targets

A registry maps names to generators, and aliases to names. Names and aliases are kept in small
letters. A name that is registered keeps its generator unless it is to be replaced. An alias is
refused when it is a name itself or stands for another name, again unless it is to be replaced; what
was registered before that stays.

`Registry.resolve` turns a name or alias into a registered name.
-/

namespace Typewright

/-- What may be offered for registration. -/
inductive Candidate where
  | generator (target : Target)
  /-- Something that is no generator. -/
  | other
  deriving DecidableEq, Repr

/-- Why something cannot be done with a registry. -/
inductive RegistryFailure where
  /-- What is offered is no generator. -/
  | notGenerator
  /-- An alias is a registered name. -/
  | aliasIsName (byname : String)
  /-- An alias stands for another name. -/
  | aliasTaken (byname owner : String)
  /-- A name is neither registered nor an alias. -/
  | unknown (name : String) (available : List String)
  /-- A configuration is of a kind that is none. -/
  | invalidConfig (kind : Kind)
  /-- A generator is not made because its configuration is not loaded. -/
  | creation (name : String) (cause : ConfigFailure)
  /-- A value is misused. -/
  | misuse (m : Misuse)

/-- The wording of a failure. -/
def RegistryFailure.message : RegistryFailure → String
  | notGenerator => "Generator class must inherit from CodeGenerator"
  | aliasIsName byname => "Alias '" ++ byname ++ "' conflicts with existing primary target"
  | aliasTaken byname owner => "Alias '" ++ byname ++ "' already points to '" ++ owner ++ "'"
  | unknown name available =>
      "No generator registered for target: " ++ name ++ ". Available: " ++
        String.intercalate ", " available
  | invalidConfig kind => "Invalid config type: <class '" ++ kind.word ++ "'>"
  | creation name cause => "Failed to create " ++ name ++ " generator: " ++ cause.message
  | misuse m => m.message

/-- The names and aliases that are registered, in order. -/
structure Registry where
  /-- The generator of each name. -/
  generators : List (String × Target)
  /-- The name that each alias stands for. -/
  aliases : List (String × String)

/-- What is known about a registered target. -/
structure TargetInfo where
  target : Target
  /-- The aliases of the name under which it is registered. -/
  aliases : List String

namespace Registry

/-- A name given a meaning: it keeps its place if it has one. -/
def assign {α : Type} (m : List (String × α)) (name : String) (a : α) : List (String × α) :=
  match m with
  | [] => [(name, a)]
  | e :: rest => if e.1 = name then (name, a) :: rest else e :: assign rest name a

/-- Texts in ascending order. -/
def sorted (ss : List String) : List String := ss.mergeSort fun a b => !decide (b < a)

/-- The registry without names. -/
def empty : Registry := ⟨[], []⟩

/-- A name as a registry keeps it. -/
def nameOf (v : Value) : Except RegistryFailure String :=
  match v.withOperation "lower" with
  | .ok s => .ok (Text.lower s)
  | .error m => .error (.misuse m)

/-- The registered names in ascending order. -/
def names (r : Registry) : List String := sorted (r.generators.map (·.1))

/-- The aliases of a name in ascending order. -/
def aliasesOf (r : Registry) (name : String) : List String :=
  sorted ((r.aliases.filter fun e => e.2 = name).map (·.1))

/-- The registered name that a name in small letters stands for. -/
def resolve? (r : Registry) (name : String) : Option String :=
  if (r.generators.lookup name).isSome then some name else r.aliases.lookup name

/-- The registered name that a name or alias stands for. -/
def resolve (r : Registry) (v : Value) : Except RegistryFailure String := do
  let name ← nameOf v
  match r.resolve? name with
  | some found => return found
  | none => throw (.unknown v.display r.names)

/-- Whether a name is registered or an alias. -/
def supports (r : Registry) (v : Value) : Except RegistryFailure Bool := do
  let name ← nameOf v
  return (r.generators.lookup name).isSome || (r.aliases.lookup name).isSome

/-- The aliases of a name, in any letter case. -/
def aliases? (r : Registry) (v : Value) : Except RegistryFailure (List String) := do
  return r.aliasesOf (← nameOf v)

/-- The target of a name or alias. -/
def target (r : Registry) (v : Value) : Except RegistryFailure Target := do
  let name ← r.resolve v
  match r.generators.lookup name with
  | some t => return t
  | none => throw (.unknown name r.names)

/-- What is known about the target of a name or alias. -/
def info (r : Registry) (v : Value) : Except RegistryFailure TargetInfo := do
  let name ← r.resolve v
  return ⟨← r.target (.str name), r.aliasesOf name⟩

/-! ## Registering -/

/-- Why an alias cannot stand for a name. -/
def refusal? (r : Registry) (name : String) (given byname : String) : Option RegistryFailure :=
  if (r.generators.lookup byname).isSome then some (.aliasIsName given)
  else match r.aliases.lookup byname with
    | some owner => if owner ≠ name then some (.aliasTaken given owner) else none
    | none => none

/-- A registry with one alias more, or why it is refused. -/
def addAlias (r : Registry) (name : String) (replace : Bool) (v : Value) :
    Except RegistryFailure Registry := do
  let given ← match v.withOperation "lower" with
    | .ok s => pure s
    | .error m => throw (.misuse m)
  let byname := Text.lower given
  if byname = name then return r
  match if replace then none else r.refusal? name given byname with
  | some failure => throw failure
  | none => return { r with aliases := assign r.aliases byname name }

/-- A registry with the aliases up to the first that is refused. -/
def addAliases (r : Registry) (name : String) (replace : Bool) :
    List Value → Registry × Option RegistryFailure
  | [] => (r, none)
  | v :: vs =>
      match r.addAlias name replace v with
      | .ok next => next.addAliases name replace vs
      | .error failure => (r, some failure)

/-- A registry with a name and its aliases, as far as they are accepted, and why if not all are. -/
def register (r : Registry) (name : Value) (offered : Candidate) (aliases : Value)
    (replace : Bool) : Registry × Option RegistryFailure :=
  match offered with
  | .other => (r, some .notGenerator)
  | .generator t =>
    match nameOf name with
    | .error failure => (r, some failure)
    | .ok key =>
      if (r.generators.lookup key).isSome && !replace then (r, none)
      else
        let named := { r with generators := assign r.generators key t }
        match (aliases.orElse (.list [])).elements with
        | .error m => (named, some (.misuse m))
        | .ok vs => named.addAliases key replace vs

/-- A registry without a name and its aliases. -/
def unregister (r : Registry) (name : Value) : Except RegistryFailure Registry := do
  let key ← nameOf name
  return {
    generators := r.generators.filter fun e => e.1 ≠ key
    aliases := r.aliases.filter fun e => e.2 ≠ key }

/-- The registry of all targets. -/
def standard : Registry :=
  let aliases (ss : List String) : Value := .list (ss.map .str)
  let r := (empty.register (.str "typescript") (.generator .typeScript) (aliases ["ts"]) false).1
  let r := (r.register (.str "zod") (.generator .zod) .null false).1
  (r.register (.str "pg") (.generator .pg) (aliases ["postgres", "sql"]) false).1

/-! ## Configured generators -/

/-- The configuration that a value gives: an object of entries, the path of a file, or nothing. -/
def configOf (reader : Json.Reader) (t : FileTree) (directory : Place) (name : Value)
    (v : Value) : Except RegistryFailure Config :=
  let loaded (c : Except ConfigFailure Config) : Except RegistryFailure Config :=
    match c with
    | .ok c => .ok c
    | .error e => .error (.creation name.display e)
  match v with
  | .str file => loaded (Config.load reader t directory file .null)
  | .object es => loaded (Config.load reader t directory "" (.object es))
  | .null => loaded (Config.load reader t directory "" .null)
  | v => .error (.invalidConfig v.kind)

/-- The target of a name or alias, with its configuration. -/
def create (r : Registry) (reader : Json.Reader) (t : FileTree) (directory : Place)
    (name : Value) (config : Value) : Except RegistryFailure (Target × Config) := do
  let found ← r.target name
  return (found, ← configOf reader t directory name config)

end Registry

end Typewright
