import Typewright.Proofs.Layout.Values
import Typewright.Proofs.Naming.Lookup

/-!
# Names in tidy code

Names are written into code as they are, between affixes, and so are some settings. Code is tidy if
these hold no blanks (`Datamodel.Unspaced`) and if the settings keep to their line
(`Config.Unspaced`). The header comment and the documentation of fields are not asked for anything.

Every name that a naming gives is then a text on one line that does not end with a blank
(`Naming.Trimmed`).
-/

namespace Typewright

open Layout (IsLine OneLine)

/-! ## Data models and configurations -/

/-- A data model whose names hold no blanks. -/
structure Datamodel.Unspaced (d : Datamodel) : Prop where
  /-- The names of models, enums and composite types. -/
  names : ∀ p, ∀ v ∈ d.names p, v.IsWord
  /-- The names of fields. -/
  fields : ∀ m ∈ d.models ++ d.types, ∀ f ∈ m.fields, f.name.IsWord
  /-- The names of the fields that relations refer to. -/
  relations : ∀ m ∈ d.models ++ d.types, ∀ f ∈ m.fields, ∀ v ∈ f.toFields, v.IsWord
  /-- The values of enums. -/
  values : ∀ e ∈ d.enums, ∀ v ∈ e.values, v.IsWord
  /-- The names of tables, which may hold blanks other than line feeds. -/
  tables : ∀ m ∈ d.models, m.dbName.IsOneLine

/-- A configuration whose affixes hold no blanks, whose other texts hold no line feeds, the header
comment aside, and that adds no code. -/
structure Config.Unspaced (c : Config) : Prop where
  affixes : ∀ p : Part, (c.value p.before).IsWord ∧ (c.value p.after).IsWord
  settings : ∀ s : Setting, s.isFlag = false → s ≠ .headerComment → (c.value s).IsOneLine
  codeless : c.flag .prefixCode = false ∧ c.flag .suffixCode = false

theorem Datamodel.Unspaced.tableName {d : Datamodel} (h : d.Unspaced) {m : Model}
    (hm : m ∈ d.models) : m.tableName.IsOneLine := by
  rw [Model.tableName, Value.orElse]
  split
  · exact h.tables m hm
  · exact (h.names .models m.name (List.mem_map_of_mem hm)).isOneLine

theorem Config.Unspaced.rendered {c : Config} (h : c.Unspaced) (p : Part) {v : Value}
    (hv : v.IsWord) : Layout.Trimmed (c.rendered p v) :=
  ((h.affixes p).1.display.append hv.display).append (h.affixes p).2.display

/-! ## Namings -/

namespace Naming

/-- A naming under which every name is on one line and ends with no blank. -/
def Trimmed (n : Naming) : Prop :=
  ∀ {p v r}, (n.part p).get v = .ok (some r) → Layout.Trimmed r

variable {n : Naming} {c : Config} {d : Datamodel} {v : Value} {r : String}

theorem Finds.trimmed (h : n.Finds c d) (words : d.Unspaced) (settings : c.Unspaced) :
    n.Trimmed := by
  intro p v r hg
  obtain ⟨w, hw, _, rfl⟩ := h.name hg
  exact settings.rendered p (words.names p w hw)

namespace Trimmed

theorem declarationName (h : n.Trimmed) (hr : n.declarationName v = .ok r) :
    Layout.Trimmed r := by
  obtain ⟨p, _, hp⟩ := exists_part_of_declarationName hr
  exact h hp

theorem enumName (h : n.Trimmed) (hr : n.enumName v = .ok r) : IsLine r := by
  obtain ⟨he, something⟩ := enumName_eq_ok.1 hr
  exact Layout.Trimmed.isLine (h (p := .enums) he) something

theorem composite (h : n.Trimmed) (hr : n.resolve v = .ok (some (.composite r))) :
    Layout.Trimmed r :=
  h (p := .types) (resolve_eq_composite.1 hr).1

theorem model (h : n.Trimmed) (hr : n.resolve v = .ok (some (.model r))) : Layout.Trimmed r :=
  h (p := .models) (resolve_eq_model.1 hr).2.1

end Trimmed

end Naming

end Typewright
