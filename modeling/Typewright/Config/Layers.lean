import Typewright.Config
import Typewright.Config.Spelling

/-!
# Layered configurations

A configuration is made of layers: the defaults, the entries of a file, and the entries given for
one run. A later layer wins, and within a layer the last spelling of a name. `Config.ofLayers` puts
the layers together.

Where a flag is given as a text, `true` and `false` in any letter case are read as truth values.
What is no setting is custom; it is added to the custom values given under their own name, and wins
over those.
-/

namespace Typewright

namespace Entries

/-- The entries with every name in its canonical spelling. -/
def canonical (es : Entries) : Entries :=
  putAll [] (es.map fun e => (Spelling.canonical e.1, e.2))

end Entries

namespace Config

/-- A text that spells a truth value, as that truth value. -/
def readFlag (v : Value) : Value :=
  match v with
  | .str s =>
      let small := Text.lower s
      if small = "true" then .bool true
      else if small = "false" then .bool false
      else v
  | _ => v

/-- The value a setting takes when it is given one. -/
def accept (s : Setting) (v : Value) : Value := if s.isFlag then readFlag v else v

/-- Whether a name is neither a setting nor the name of the custom values. -/
def isCustomName (name : String) : Bool :=
  (Setting.ofName? name).isNone && name != Setting.customName

/-- The configuration that entries with canonical names give. -/
def ofEntries (es : Entries) : Except Misuse Config := do
  let explicit ← Table.ofValue ((es.getD Setting.customName .null).orElse (.object []))
  let extra := Table.ofEntries (es.filter fun e => isCustomName e.1)
  return {
    value := fun s => accept s (es.getD s.name s.default)
    custom := .table (explicit.putAll extra) }

/-- The entries of a layer, none if it is not set. -/
def layer (v : Value) : Except Misuse Entries :=
  if v.truthy then
    match v with
    | .object es => .ok (Entries.canonical es)
    | v => .error (.noOperation v.kind "items")
  else .ok []

/-- The configuration made of the entries of a file and those given for one run. -/
def ofLayers (file : Entries) (given : Value) : Except Misuse Config := do
  let top ← layer given
  ofEntries (Entries.putAll file.canonical top)

end Config

end Typewright
