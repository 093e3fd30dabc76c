import Typewright.Proofs.Naming

/-!
# Data models with rendered names

`Datamodel.renamed` gives every declaration of a data model its rendered name for a raw one, and
every reference to a declaration with it. `Config.withoutAffixes` is a configuration under which
names are rendered as they are. The two undo each other: the renamed data model has the same
rendered names without affixes as the data model has with them (`rendered_withoutAffixes`), the same
names are apart (`Datamodel.Apart.renamed`), and a renamed reference refers to the same thing
(`Datamodel.Refers.renamed`).

That different parts stay apart rests on there being no collision: only then is a rendered name not
that of a declaration of another part.
-/

namespace Typewright

/-! ## Configurations without affixes -/

/-- Whether a setting is an affix of a part. -/
def Setting.isAffix (s : Setting) : Bool := Part.all.any fun p => s = p.before || s = p.after

/-- A configuration with all affixes empty. -/
def Config.withoutAffixes (c : Config) : Config :=
  { c with value := fun s => if s.isAffix then .str "" else c.value s }

theorem rendered_withoutAffixes (c : Config) (p : Part) (s : String) :
    c.withoutAffixes.rendered p (.str s) = s := by
  have before : c.withoutAffixes.value p.before = .str "" := by cases p <;> rfl
  have after : c.withoutAffixes.value p.after = .str "" := by cases p <;> rfl
  rw [Config.rendered, affixed, before, after]
  show "" ++ s ++ "" = s
  rw [String.empty_append, String.append_empty]

/-! ## Renaming -/

namespace Datamodel

/-- Whether a value is a name of a part. -/
def declares (d : Datamodel) (p : Part) (v : Value) : Bool := (d.names p).any (·.same v)

/-- The type of a field with the rendered name of what it refers to. -/
def renamedType (c : Config) (d : Datamodel) (f : Field) : Value :=
  match f.kind with
  | .object =>
      if d.declares .types f.type then .str (c.rendered .types f.type)
      else if d.declares .models f.type then .str (c.rendered .models f.type)
      else f.type
  | .enum => if d.declares .enums f.type then .str (c.rendered .enums f.type) else f.type
  | .scalar | .unsupported => f.type

/-- A field with the rendered name of what it refers to. -/
def renamedField (c : Config) (d : Datamodel) (f : Field) : Field :=
  { f with type := d.renamedType c f }

/-- A model or composite type under its rendered name. -/
def renamedModel (c : Config) (d : Datamodel) (p : Part) (m : Model) : Model :=
  { m with name := .str (c.rendered p m.name), fields := m.fields.map (d.renamedField c) }

/-- An enum under its rendered name. -/
def renamedEnum (c : Config) (e : Enumeration) : Enumeration :=
  { e with name := .str (c.rendered .enums e.name) }

/-- A data model with every name rendered. -/
def renamed (c : Config) (d : Datamodel) : Datamodel where
  models := d.models.map (d.renamedModel c .models)
  enums := d.enums.map (renamedEnum c)
  types := d.types.map (d.renamedModel c .types)

/-- Only objects name the fields of a relation. -/
def RelationsAreObjects (d : Datamodel) : Prop :=
  ∀ m ∈ d.models ++ d.types, ∀ f ∈ m.fields, f.fromFields ≠ [] → f.kind = .object

section Renamed

variable {c : Config} {d : Datamodel}

theorem names_renamed (c : Config) (d : Datamodel) (p : Part) :
    (d.renamed c).names p = (d.names p).map fun v => .str (c.rendered p v) := by
  cases p with
  | models => simp only [names, renamed, List.map_map]; rfl
  | enums => simp only [names, renamed, List.map_map]; rfl
  | types => simp only [names, renamed, List.map_map]; rfl

theorem mem_names_renamed {p : Part} {w : Value} :
    w ∈ (d.renamed c).names p ↔ ∃ v ∈ d.names p, w = .str (c.rendered p v) := by
  rw [names_renamed, List.mem_map]
  exact exists_congr fun v => and_congr_right fun _ => eq_comm

theorem Named.renamed (h : d.Named) : (d.renamed c).Named := by
  intro p w hw
  obtain ⟨v, hv, rfl⟩ := mem_names_renamed.1 hw
  exact ⟨_, affixed_ne_empty (h p v hv), rfl⟩

theorem Apart.renamed (h : d.Apart c) : (d.renamed c).Apart c.withoutAffixes := by
  intro p q v' hv' w' hw' same
  obtain ⟨v, hv, rfl⟩ := mem_names_renamed.1 hv'
  obtain ⟨w, hw, rfl⟩ := mem_names_renamed.1 hw'
  rw [rendered_withoutAffixes, rendered_withoutAffixes] at same
  exact h p q v hv w hw same

theorem renamed_mem {p : Part} {v : Value} (hv : v ∈ d.names p) :
    .str (c.rendered p v) ∈ (d.renamed c).names p := mem_names_renamed.2 ⟨v, hv, rfl⟩

/-- The rendered name of a declaration is no name of another part. -/
theorem renamed_notMem (apart : d.Apart c) {p q : Part} (hpq : p ≠ q) {v : Value}
    (hv : v ∈ d.names p) : .str (c.rendered p v) ∉ (d.renamed c).names q := by
  intro hw
  obtain ⟨w, hw, same⟩ := mem_names_renamed.1 hw
  exact hpq (apart p q v hv w hw (Value.str.inj same))

/-! ## References -/

theorem declares_iff (named : d.Named) {p : Part} {v : Value} :
    d.declares p v = true ↔ v ∈ d.names p := by
  rw [declares, List.any_eq_true]
  constructor
  · rintro ⟨w, hw, same⟩
    obtain ⟨s, rfl⟩ := named.texts p w hw
    rw [Value.str_same_iff] at same
    rwa [same]
  · intro hv
    obtain ⟨s, rfl⟩ := named.texts p v hv
    exact ⟨_, hv, Value.str_same_iff.2 rfl⟩

theorem renamedType_enum (named : d.Named) {f : Field} (hk : f.kind = .enum)
    (hv : f.type ∈ d.names .enums) : d.renamedType c f = .str (c.rendered .enums f.type) := by
  rw [renamedType, hk]
  simp only [(declares_iff named).2 hv, if_true]

/-- A renamed reference refers to what it referred to. -/
theorem Refers.renamed (named : d.Named) (apart : d.Apart c) {f : Field} (hk : f.kind = .object)
    {r : Reference} (h : d.Refers c f.type r) :
    (d.renamed c).Refers c.withoutAffixes (d.renamedField c f).type r := by
  show (d.renamed c).Refers c.withoutAffixes (d.renamedType c f) r
  rw [renamedType, hk]
  cases h with
  | composite hv =>
      simp only [(declares_iff named).2 hv, if_true]
      have refers := Refers.composite (c := c.withoutAffixes) (renamed_mem (c := c) hv)
      rwa [rendered_withoutAffixes] at refers
  | model notType hv =>
      have notDeclared : d.declares .types f.type = false := by
        rw [Bool.eq_false_iff]
        exact fun declared => notType ((declares_iff named).1 declared)
      simp only [notDeclared, (declares_iff named).2 hv, if_true, if_false, Bool.false_eq_true]
      have refers := Refers.model (c := c.withoutAffixes)
        (renamed_notMem apart (q := .types) (by decide) hv) (renamed_mem (c := c) hv)
      rwa [rendered_withoutAffixes] at refers

/-- The relation of a field is renamed with its model. -/
theorem relationFor?_renamed (c : Config) (d : Datamodel) (p : Part) (m : Model) (name : Value) :
    (d.renamedModel c p m).relationFor? name =
      (m.relationFor? name).map (d.renamedField c) := by
  rw [Model.relationFor?, Model.relationFor?, renamedModel, List.find?_map]
  rfl

end Renamed

end Datamodel

/-! ## Namings of renamed data models -/

namespace Naming.Renders

variable {c : Config} {d : Datamodel} {n n' : Naming}

/-- An enum has the name that it is renamed to. -/
theorem enumName_renamed (renders : n.Renders c d) (named : d.Named)
    (renders' : n'.Renders c.withoutAffixes (d.renamed c)) {v : Value} {name : String}
    (h : n.enumName v = .ok name) :
    v ∈ d.names .enums ∧ n'.enumName (.str (c.rendered .enums v)) = .ok name := by
  obtain ⟨hv, rfl⟩ := (renders.enumName_eq_ok named).1 h
  rw [renders'.enumName_eq_ok named.renamed, rendered_withoutAffixes]
  exact ⟨hv, Datamodel.renamed_mem hv, rfl⟩

/-- A declaration has the name that it is renamed to. -/
theorem declarationName_renamed (renders : n.Renders c d) (named : d.Named)
    (renders' : n'.Renders c.withoutAffixes (d.renamed c)) {p : Part} (notEnum : p ≠ .enums)
    {v : Value} (hv : v ∈ d.names p) (disjoint : ∀ w ∈ d.names .models, w ∉ d.names .types)
    {name : String} (h : n.declarationName v = .ok name) :
    n'.declarationName (.str (c.rendered p v)) = .ok name := by
  rw [renders'.declarationName_eq_ok named.renamed, rendered_withoutAffixes,
    rendered_withoutAffixes]
  rw [renders.declarationName_eq_ok named] at h
  cases p with
  | models =>
      obtain ⟨_, rfl⟩ | ⟨notModel, _⟩ := h
      · exact Or.inl ⟨Datamodel.renamed_mem hv, rfl⟩
      · exact absurd hv notModel
  | enums => exact absurd rfl notEnum
  | types =>
      obtain ⟨isModel, _⟩ | ⟨_, _, rfl⟩ := h
      · exact absurd hv (disjoint v isModel)
      · exact Or.inr ⟨Datamodel.renamed_notMem (renders.apart named) (by decide) hv,
          Datamodel.renamed_mem hv, rfl⟩

end Naming.Renders

end Typewright
