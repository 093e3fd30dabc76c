import Typewright.Config.Layers
import Typewright.Config.Saved
import Typewright.Proofs.Config.Spelling
import Typewright.Proofs.Outcome
import Typewright.Proofs.Value

/-!
# What layers make

Entries in canonical spelling have distinct names, and each of them has the value of an entry with
that canonical spelling (`Entries.mem_canonical`). `ofEntries_of_object` says what configuration
they make when the custom values are given as an object or not at all: each setting has the value
found under its name, read as a flag if it is one, and the custom values are the explicit ones
followed by what is no setting.

A configuration that is made in this way is *settled*: its flags have been read, and its custom
values are entries under distinct names. Entries of plain values make settled configurations of
plain values (`exists_settled`).
-/

namespace Typewright

/-! ## Entries in canonical spelling -/

namespace Entries

theorem mem_canonical {es : Entries} {e : String × Value} (h : e ∈ es.canonical) :
    ∃ f ∈ es, Spelling.canonical f.1 = e.1 ∧ f.2 = e.2 := by
  cases mem_putAll h with
  | inl none => cases none
  | inr new =>
      obtain ⟨f, hf, rfl⟩ := List.mem_map.1 new
      exact ⟨f, hf, rfl, rfl⟩

theorem mem_map_fst_canonical {es : Entries} {name : String} :
    name ∈ es.canonical.map Prod.fst ↔ ∃ e ∈ es, Spelling.canonical e.1 = name := by
  rw [canonical, mem_map_fst_putAll]
  simp

theorem nodup_canonical (es : Entries) : (es.canonical.map Prod.fst).Nodup :=
  nodup_putAll List.nodup_nil

theorem canonical_eq_self {es : Entries} (nodup : (es.map Prod.fst).Nodup)
    (h : ∀ e ∈ es, Spelling.canonical e.1 = e.1) : es.canonical = es := by
  have spelled : es.map (fun e => (Spelling.canonical e.1, e.2)) = es := by
    have each : ∀ e ∈ es, (Spelling.canonical e.1, e.2) = id e := fun e he => by rw [h e he]; rfl
    rw [List.map_congr_left each, List.map_id]
  rw [canonical, spelled]
  exact putAll_eq_append nodup

end Entries

namespace Config

/-! ## Settings as entries -/

theorem map_fst_settingEntries (c : Config) :
    c.settingEntries.map Prod.fst = Setting.all.map Setting.name := by
  rw [settingEntries, List.map_map]
  rfl

theorem nodup_settingEntries (c : Config) : (c.settingEntries.map Prod.fst).Nodup := by
  rw [map_fst_settingEntries]
  decide

theorem mem_settingEntries (c : Config) {name : String} :
    name ∈ c.settingEntries.map Prod.fst ↔ ∃ s : Setting, s.name = name := by
  rw [map_fst_settingEntries, List.mem_map]
  exact exists_congr fun s => and_iff_right s.mem_all

theorem get?_settingEntries (c : Config) (s : Setting) :
    c.settingEntries.get? s.name = some (c.value s) :=
  Entries.get?_of_mem c.nodup_settingEntries (e := (s.name, c.value s))
    (List.mem_map_of_mem (f := fun s : Setting => (s.name, c.value s)) s.mem_all)

theorem isCustomName_iff {name : String} :
    isCustomName name = true ↔ Setting.ofName? name = none ∧ name ≠ Setting.customName := by
  simp [isCustomName]

theorem isCustomName_name (s : Setting) : isCustomName s.name = false := by
  rw [Bool.eq_false_iff, ne_eq, isCustomName_iff, s.ofName?_name]
  simp

theorem name_ne_customName (s : Setting) : s.name ≠ Setting.customName := by
  intro same
  have found := s.ofName?_name
  rw [same, Setting.ofName?_customName] at found
  cases found

/-! ## Flags -/

/-- A flag that has been read is not a text any more that could be read. -/
theorem readFlag_readFlag (v : Value) : readFlag (readFlag v) = readFlag v := by
  cases v with
  | str s =>
      by_cases yes : Text.lower s = "true"
      · simp [readFlag, yes]
      · by_cases no : Text.lower s = "false"
        · simp [readFlag, no]
        · simp [readFlag, yes, no]
  | _ => rfl

theorem accept_accept (s : Setting) (v : Value) : accept s (accept s v) = accept s v := by
  rw [accept, accept]
  split
  · exact readFlag_readFlag v
  · rfl

theorem plain_accept {s : Setting} {v : Value} (h : v.Plain) : (accept s v).Plain := by
  rw [accept]
  split
  · cases v with
    | str text =>
        rw [readFlag]
        split
        · exact .bool true
        split
        · exact .bool false
        · exact h
    | _ => exact h
  · exact h

theorem plain_default (s : Setting) : s.default.Plain := by
  cases s with
  | annotationSpace | namespaceType | useType | prefixCode | suffixCode | output | zodOutput
  | pgOutput => exact .null
  | optionalRelations | omitRelations | optionalNullables | formatOutput
  | strictValidationScalars => exact .bool _
  | _ => exact .str _

/-! ## Layers of objects -/

theorem ofEntries_of_object {es explicit : Entries}
    (h : (es.getD Setting.customName .null).orElse (.object []) = .object explicit) :
    ofEntries es = .ok
      { value := fun s => accept s (es.getD s.name s.default)
        custom := .table (.ofEntries
          (explicit.putAll (es.filter fun e => isCustomName e.1))) } := by
  have table : Table.ofValue (.object explicit) = .ok (.ofEntries explicit) := rfl
  rw [ofEntries, h, table, ok_bind, ← Table.putAll_ofEntries]
  rfl

theorem ofLayers_object (below top : Entries) :
    ofLayers below (.object top) = ofEntries (Entries.putAll below.canonical top.canonical) := by
  cases top with
  | nil => rfl
  | cons e rest => rfl

theorem ofLayers_null (below : Entries) : ofLayers below .null = ofEntries below.canonical := rfl

/-! ## Settled configurations -/

/-- A configuration whose flags have been read, with entries under distinct names as its custom
values. -/
structure Settled (c : Config) (extras : Entries) : Prop where
  /-- Reading a flag changes nothing any more. -/
  accepted : ∀ s, accept s (c.value s) = c.value s
  /-- The custom values are the entries. -/
  custom_eq : c.custom = .table (.ofEntries extras)
  /-- No name comes twice. -/
  nodup : (extras.map Prod.fst).Nodup
  /-- Settings have plain values. -/
  plain : ∀ s, (c.value s).Plain
  /-- Custom values are plain. -/
  plain_extras : ∀ e ∈ extras, e.2.Plain

theorem exists_settled {es : Entries} {c : Config} (made : ofEntries es = .ok c)
    (plain : ∀ e ∈ es, e.2.Plain)
    (object : ∀ v, es.get? Setting.customName = some v → ∃ fs, v = .object fs) :
    ∃ extras, c.Settled extras := by
  obtain ⟨explicit, explicit_eq, explicit_plain⟩ : ∃ explicit : Entries,
      (es.getD Setting.customName .null).orElse (.object []) = .object explicit ∧
        (Value.object explicit).Plain := by
    have nothing : (Value.object []).Plain := .object List.nodup_nil (by simp)
    rw [Entries.getD]
    cases hv : es.get? Setting.customName with
    | none => exact ⟨[], rfl, nothing⟩
    | some v =>
        obtain ⟨fs, rfl⟩ := object v hv
        cases fs with
        | nil => exact ⟨[], rfl, nothing⟩
        | cons e rest => exact ⟨e :: rest, rfl, plain _ (Entries.mem_of_get? hv)⟩
  rw [ofEntries_of_object explicit_eq] at made
  cases made
  cases explicit_plain with
  | object nodup values =>
      refine ⟨_, fun s => accept_accept s _, rfl, Entries.nodup_putAll nodup, fun s => ?_, ?_⟩
      · refine plain_accept ?_
        rw [Entries.getD]
        cases hv : es.get? s.name with
        | none => exact plain_default s
        | some v => exact plain _ (Entries.mem_of_get? hv)
      · intro e he
        cases Entries.mem_putAll he with
        | inl old => exact values e old
        | inr new => exact plain e (List.mem_filter.1 new).1

/-- Two layers of plain values make a settled configuration. -/
theorem exists_settled_of_layers {below top : Entries} {c : Config}
    (made : ofLayers below (.object top) = .ok c) (plain_below : (Value.object below).Plain)
    (plain_top : (Value.object top).Plain)
    (object : ∀ v, (Entries.putAll below.canonical top.canonical).get? Setting.customName = some v →
      ∃ fs, v = .object fs) :
    ∃ extras, c.Settled extras := by
  rw [ofLayers_object] at made
  refine exists_settled made (fun e he => ?_) object
  have canonical {es : Entries} (h : (Value.object es).Plain) (he : e ∈ es.canonical) :
      e.2.Plain := by
    obtain ⟨f, hf, _, value⟩ := Entries.mem_canonical he
    cases h with
    | object _ values => exact value ▸ values f hf
  exact (Entries.mem_putAll he).elim (canonical plain_below) (canonical plain_top)

end Config

end Typewright
