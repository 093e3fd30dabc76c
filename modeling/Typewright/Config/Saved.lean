import Typewright.Config.Layers
import Typewright.Json.Writer

/-!
# Saved configurations

A configuration is saved as one JSON object: the settings in order, and the custom values among
them, in the place of a setting that has their name and after all settings otherwise. Names that
are no texts are written as the texts of their values.
-/

namespace Typewright.Config

/-- A table as the object it is written as. -/
def objectOf (t : Table) : Value := .object (t.map fun e => (Json.nameText e.1, e.2))

/-- What is saved. -/
def savedTable (c : Config) : Except Misuse Table := do
  return (Table.ofEntries c.settingEntries).putAll (← c.custom.toTable)

/-- The custom values as one value. -/
def customValue (c : Config) : Value :=
  match c.custom with
  | .table t => objectOf t
  | .other v => v

/-- The configuration as entries, the custom values under a name of their own. -/
def entries (c : Config) : Entries := c.settingEntries ++ [(Setting.customName, c.customValue)]

end Typewright.Config
