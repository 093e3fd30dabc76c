import Typewright.Proofs.Generation
import Typewright.Proofs.TypeScript.Typing

/-!
# References between declarations

A field of a TypeScript file may be of a type that the file declares itself: an enum, a model, a
composite type, or the type of a property of a model. The references are looked up in the name maps
(`Naming.resolve`, `Naming.enumName`), and the declarations get their names from
`Naming.declarationName`, which asks the maps in another order. The main statement, `emits_closed`,
is that the two meet. Each name that a field refers to is that of a declaration of the same file and
of the right kind. The property that is the key of a relation is there as well, though relations may
be left out: only a relation to a model can be (`declare?_isSome`).

The names have to be told apart for this. The declarations of a part are then exactly its rendered
names (`name_of_model`, `model_declared` and their like), which is all that the references need to
know of them.
-/

namespace Typewright

/-- Whether a field is a relation to a model. -/
def Datamodel.IsRelation (d : Datamodel) (f : Field) : Prop :=
  f.kind = .object ∧ f.type ∉ d.names .types

namespace TypeScript

open Datamodel (journal journal_named)

/-! ## References -/

/-- Whether a type refers to nothing but declarations of a list of them. -/
def FieldType.DeclaredIn (ds : Declarations) : FieldType → Prop
  | composite name => name ∈ ds.types.map (·.name)
  | model name => name ∈ ds.models.map (·.name)
  | key owner _ => owner ∈ ds.models.map (·.name)
  | enum name => name ∈ ds.enums.map (·.name)
  | annotated _ | scalar _ | any => True

/-- Whether a declaration has a property of a name. -/
def ModelDeclaration.Has (decl : ModelDeclaration) (name : Value) : Prop :=
  ∃ p ∈ decl.properties, p.name = name

/-- A generation that wrote certain declarations under a naming. -/
structure Emits (c : Config) (d : Datamodel) (n : Naming) (ds : Declarations) (g : Generated) :
    Prop where
  /-- The naming is that of the data model. -/
  naming : Naming.build c d = .ok n
  /-- The declarations are those of the data model. -/
  declarations : declarations c n d = .ok ds
  /-- Their texts are in the file. -/
  code : ∃ before after, g.code = finish c (fileText (before ++ ds.texts ++ after))

/-- A field that refers to nothing but certain declarations, and to what these have. -/
structure Closed (c : Config) (d : Datamodel) (n : Naming) (ds : Declarations) (m : Model)
    (f : Field) : Prop where
  /-- The field has a type, its property is printed with that type, and the type is declared. -/
  declared : ∃ t, fieldType c n m f = .ok t ∧
    (∀ p, property c n m f = .ok (some p) → p.type = t.text) ∧ t.DeclaredIn ds
  /-- What is declared for the owner of a key has the property that is the key, if the owner has
  it as a field of its own and not as a relation. -/
  keys : ∀ owner key, fieldType c n m f = .ok (.key owner key) →
    ∀ target ∈ d.models, c.rendered .models target.name = owner →
      ∀ k ∈ target.fields, k.name = key → ¬ d.IsRelation k →
        ∀ decl ∈ ds.models, decl.name = owner → decl.Has key

theorem exists_emits {directory : List String} {c : Config} {d : Datamodel} {g : Generated}
    (h : generate .typeScript directory c d = .ok g) : ∃ n ds, Emits c d n ds g := by
  obtain ⟨n, code, hn, hc, rfl⟩ := generate_eq_ok.1 h
  obtain ⟨ds, before, after, hd, _, _, rfl⟩ := file_eq_ok.1 hc
  exact ⟨n, ds, hn, hd, _, after, rfl⟩

/-! ## Names of declarations -/

section Names

variable {c : Config} {n : Naming} {d : Datamodel} {ds : Declarations}

/-- A model is declared under its rendered name. -/
theorem name_of_model (renders : n.Renders c d) (named : d.Named) {m : Model}
    {decl : ModelDeclaration} (h : modelDeclaration c n m = .ok decl)
    (hm : m.name ∈ d.names .models) : decl.name = c.rendered .models m.name := by
  obtain ⟨_, _, hn⟩ := modelDeclaration_eq_ok.1 h
  obtain ⟨_, hr⟩ | ⟨notModel, _⟩ := (renders.declarationName_eq_ok named).1 hn
  · exact hr
  · exact absurd hm notModel

/-- A composite type is declared under its rendered name unless it has the name of a model. -/
theorem name_of_type (renders : n.Renders c d) (named : d.Named) {m : Model}
    {decl : ModelDeclaration} (h : modelDeclaration c n m = .ok decl)
    (hm : m.name ∉ d.names .models) : decl.name = c.rendered .types m.name := by
  obtain ⟨_, _, hn⟩ := modelDeclaration_eq_ok.1 h
  obtain ⟨isModel, _⟩ | ⟨_, _, hr⟩ := (renders.declarationName_eq_ok named).1 hn
  · exact absurd isModel hm
  · exact hr

theorem model_declared (renders : n.Renders c d) (named : d.Named)
    (h : declarations c n d = .ok ds) {v : Value} (hv : v ∈ d.names .models) :
    c.rendered .models v ∈ ds.models.map (·.name) := by
  obtain ⟨_, hm, _⟩ := declarations_eq_ok.1 h
  obtain ⟨m, mem, rfl⟩ := List.mem_map.1 hv
  obtain ⟨decl, hdecl, made⟩ := mapM_ok_mem hm m mem
  rw [← name_of_model renders named made hv]
  exact List.mem_map_of_mem hdecl

theorem type_declared (renders : n.Renders c d) (named : d.Named)
    (disjoint : ∀ v ∈ d.names .models, v ∉ d.names .types)
    (h : declarations c n d = .ok ds) {v : Value} (hv : v ∈ d.names .types) :
    c.rendered .types v ∈ ds.types.map (·.name) := by
  obtain ⟨_, _, ht⟩ := declarations_eq_ok.1 h
  obtain ⟨m, mem, rfl⟩ := List.mem_map.1 hv
  obtain ⟨decl, hdecl, made⟩ := mapM_ok_mem ht m mem
  rw [← name_of_type renders named made fun isModel => disjoint _ isModel hv]
  exact List.mem_map_of_mem hdecl

theorem enum_declared (renders : n.Renders c d) (named : d.Named)
    (h : declarations c n d = .ok ds) {v : Value} (hv : v ∈ d.names .enums) :
    c.rendered .enums v ∈ ds.enums.map (·.name) := by
  obtain ⟨he, _, _⟩ := declarations_eq_ok.1 h
  obtain ⟨e, mem, rfl⟩ := List.mem_map.1 hv
  obtain ⟨decl, hdecl, made⟩ := mapM_ok_mem he e mem
  obtain ⟨_, hn, _⟩ := enumDeclaration_eq_ok.1 made
  obtain ⟨_, hr⟩ := (renders.get_eq_some named (p := .enums)).1 hn
  rw [← hr]
  exact List.mem_map_of_mem hdecl

/-- A declaration under the rendered name of a model is the declaration of that model. -/
theorem declaration_of_name (renders : n.Renders c d) (named : d.Named)
    (distinct : (d.names .models).Nodup) (h : declarations c n d = .ok ds) {m : Model}
    (hm : m ∈ d.models) {decl : ModelDeclaration} (hdecl : decl ∈ ds.models)
    (same : decl.name = c.rendered .models m.name) : modelDeclaration c n m = .ok decl := by
  obtain ⟨_, hmodels, _⟩ := declarations_eq_ok.1 h
  obtain ⟨k, hk, made⟩ := mapM_ok_mem_result hmodels decl hdecl
  have hkn : k.name ∈ d.names .models := List.mem_map_of_mem hk
  rw [name_of_model renders named made hkn] at same
  obtain ⟨_, sameName⟩ := renders.rendered_inj named hkn (List.mem_map_of_mem hm) same
  rwa [← List.inj_on_of_nodup_map distinct hk hm sameName]

end Names

/-! ## What a field refers to -/

section Fields

variable {c : Config} {n : Naming} {d : Datamodel} {ds : Declarations}

/-- Whatever a raw name refers to is declared. -/
theorem refers_declared (renders : n.Renders c d) (named : d.Named)
    (disjoint : ∀ v ∈ d.names .models, v ∉ d.names .types) (h : declarations c n d = .ok ds)
    {v : Value} {r : Reference} (refers : d.Refers c v r) :
    match r with
    | .composite name => name ∈ ds.types.map (·.name)
    | .model name => name ∈ ds.models.map (·.name) := by
  cases refers with
  | composite hv => exact type_declared renders named disjoint h hv
  | model _ hv => exact model_declared renders named h hv

/-- Whatever a field refers to is declared. -/
theorem hasType_declared (renders : n.Renders c d) (named : d.Named)
    (disjoint : ∀ v ∈ d.names .models, v ∉ d.names .types)
    (h : declarations c n d = .ok ds) {m : Model} {f : Field} {t : FieldType}
    (ht : d.HasType c m f t) : t.DeclaredIn ds := by
  cases ht with
  | key _ _ _ hkey =>
      cases hkey with
      | composite refers | model refers =>
          exact refers_declared renders named disjoint h refers
  | plain _ _ _ hplain =>
      obtain ⟨e, rfl⟩ | rfl := plainType_cases hplain
      · exact trivial
      · exact trivial
  | composite _ refers | model _ refers => exact refers_declared renders named disjoint h refers
  | enum _ hv => exact enum_declared renders named h hv
  | any => exact trivial

/-- A field has the type of a relation only if it is one. -/
theorem isRelation_of_hasType {m : Model} {f : Field} {t : FieldType} (ht : d.HasType c m f t)
    (isRelation : t.isRelation = true) : d.IsRelation f := by
  cases ht with
  | key _ _ _ hkey =>
      cases hkey with
      | composite | model => cases isRelation
  | plain _ _ _ hplain =>
      obtain ⟨e, rfl⟩ | rfl := plainType_cases hplain
      · cases isRelation
      · cases isRelation
  | model hk refers =>
      cases refers with
      | model notType _ => exact ⟨hk, notType⟩
  | composite | enum | any => cases isRelation

/-- What is no relation is never left out. -/
theorem declare?_isSome {f : Field} {t : FieldType} (notRelation : t.isRelation = false) :
    declare? c f t = some (declare c f t) := by
  rw [declare?, notRelation]
  rfl

/-- A field that is no relation has its property in the declaration of its model. -/
theorem has_of_field (renders : n.Renders c d) (named : d.Named) {m : Model}
    {decl : ModelDeclaration} (h : modelDeclaration c n m = .ok decl) {f : Field}
    (hf : f ∈ m.fields) (notRelation : ¬ d.IsRelation f) : decl.Has f.name := by
  obtain ⟨_, hp, _⟩ := modelDeclaration_eq_ok.1 h
  obtain ⟨found, hfound, hps⟩ := properties_eq_ok.1 hp
  obtain ⟨o, ho, made⟩ := mapM_ok_mem hfound f hf
  obtain ⟨t, ht, rfl⟩ := property_eq_ok.1 made
  have hr : t.isRelation = false := by
    rw [Bool.eq_false_iff]
    intro isRelation
    exact notRelation (isRelation_of_hasType ((fieldType_eq_ok renders named).1 ht) isRelation)
  rw [declare?_isSome hr] at ho
  refine ⟨declare c f t, ?_, rfl⟩
  rw [hps]
  exact List.mem_filterMap.2 ⟨_, ho, rfl⟩

end Fields

/-! ## Closed files -/

theorem property_type {c : Config} {n : Naming} {m : Model} {f : Field} {t : FieldType}
    {p : Property} (ht : fieldType c n m f = .ok t) (hp : property c n m f = .ok (some p)) :
    p.type = t.text := by
  obtain ⟨t', ht', h⟩ := property_eq_ok.1 hp
  cases ht.symm.trans ht'
  rw [declare?] at h
  split at h
  · cases h
  · cases h
    rfl

/-- A file refers to nothing but its own declarations, and to no property that is not there. -/
theorem emits_closed {directory : List String} {c : Config} {d : Datamodel} {g : Generated}
    (named : d.Named) (distinct : (d.names .models).Nodup)
    (disjoint : ∀ v ∈ d.names .models, v ∉ d.names .types)
    (h : generate .typeScript directory c d = .ok g) :
    ∃ n ds, Emits c d n ds g ∧
      ∀ m ∈ d.models ++ d.types, ∀ f ∈ m.fields, Closed c d n ds m f := by
  obtain ⟨n, ds, emits⟩ := exists_emits h
  have renders := Naming.build_renders named emits.naming
  refine ⟨n, ds, emits, fun m hm f hf => ⟨?_, ?_⟩⟩
  · obtain ⟨decl, made⟩ := modelDeclaration_of_declarations emits.declarations m hm
    obtain ⟨_, hp, _⟩ := modelDeclaration_eq_ok.1 made
    obtain ⟨t, ht⟩ := fieldType_of_properties hp f hf
    have hasType := (fieldType_eq_ok renders named).1 ht
    exact ⟨t, ht, fun p => property_type ht,
      hasType_declared renders named disjoint emits.declarations hasType⟩
  · rintro owner key - target htarget rfl k hk rfl notRelation decl hdecl same
    -- Whatever is declared under the name of the owner is made from the model that is referred to.
    have made := declaration_of_name renders named distinct emits.declarations htarget
      hdecl same
    exact has_of_field renders named made hk notRelation

/-- The posts of users refer to their authors by key, even when relations are left out. -/
theorem journal_emits_closed :
    journal.Named ∧ (journal.names .models).Nodup ∧
      (∀ v ∈ journal.names .models, v ∉ journal.names .types) ∧
      ∃ g n ds, generate .typeScript ["src"] (Config.default.set .omitRelations (.bool true))
          journal = .ok g ∧
        Emits (Config.default.set .omitRelations (.bool true)) journal n ds g ∧
        ∀ m ∈ journal.models ++ journal.types, ∀ f ∈ m.fields,
          Closed (Config.default.set .omitRelations (.bool true)) journal n ds m f := by
  have distinct : (journal.names .models).Nodup := by
    simp [journal, Datamodel.names]
  have disjoint : ∀ v ∈ journal.names .models, v ∉ journal.names .types := by
    simp [journal, Datamodel.names]
  have made : ∃ g, generate .typeScript ["src"] (Config.default.set .omitRelations (.bool true))
      journal = .ok g := ⟨_, rfl⟩
  obtain ⟨g, hg⟩ := made
  obtain ⟨n, ds, emits, closed⟩ := emits_closed journal_named distinct disjoint hg
  exact ⟨journal_named, distinct, disjoint, g, n, ds, hg, emits, closed⟩

end TypeScript

end Typewright
