import Typewright.Proofs.Datamodel.Renamed
import Typewright.Proofs.TypeScript.Typing

/-!
# TypeScript files of renamed data models

From the renamed data model, without affixes, comes the same file. The steps follow the definitions
from the inside out: a field of the renamed data model has the type that it had
(`HasType.renamed`), so its property and in turn its declaration stay as they are, and the file with
them (`file_renamed`).

A key is the place where a rendered name is used that the field itself does not give. It comes with
the relation of the field, which is renamed since it is an object.
-/

namespace Typewright

open TypeScript (FieldType)

/-! ## Settings that are no affixes -/

namespace TypeScript

theorem scalarExpression_withoutAffixes (c : Config) (s : Scalar) :
    scalarExpression c.withoutAffixes s = scalarExpression c s := by
  cases s with
  | dateTime | bigInt | decimal | bytes => rfl
  | _ => rfl

theorem scalarType_withoutAffixes (c : Config) (tag : Value) :
    scalarType c.withoutAffixes tag = scalarType c tag := by
  simp only [scalarType, tagExpression, scalarExpression_withoutAffixes]

end TypeScript

/-! ## Types of renamed fields -/

namespace Datamodel

variable {c : Config} {d : Datamodel}

theorem HasKeyType.renamed (named : d.Named) (apart : d.Apart c) {relation : Field}
    (hk : relation.kind = .object) {t : FieldType} (h : d.HasKeyType c relation t) :
    (d.renamed c).HasKeyType c.withoutAffixes (d.renamedField c relation) t := by
  cases h with
  | composite refers => exact .composite (refers.renamed named apart hk)
  | model refers fields => exact .model (refers.renamed named apart hk) fields

/-- The relation that a field is the key of is an object. -/
theorem kind_of_relationFor? {m : Model}
    (objects : ∀ f ∈ m.fields, f.fromFields ≠ [] → f.kind = .object) {name : Value}
    {relation : Field} (h : m.relationFor? name = some relation) : relation.kind = .object := by
  have hm : relation ∈ m.fields := List.mem_of_find?_eq_some h
  refine objects relation hm fun empty => ?_
  have found := List.find?_some h
  simp only [empty, Bool.false_eq_true] at found

theorem HasType.renamed (named : d.Named) (apart : d.Apart c) {p : Part} {m : Model}
    (objects : ∀ f ∈ m.fields, f.fromFields ≠ [] → f.kind = .object) {f : Field} {t : FieldType}
    (h : d.HasType c m f t) :
    (d.renamed c).HasType c.withoutAffixes (d.renamedModel c p m) (d.renamedField c f) t := by
  have scalarType_renamed (hk : f.kind = .scalar) :
      TypeScript.scalarType c.withoutAffixes (d.renamedField c f).type =
        TypeScript.scalarType c f.type := by
    have same : (d.renamedField c f).type = f.type := by
      show d.renamedType c f = f.type
      rw [renamedType, hk]
    rw [same, TypeScript.scalarType_withoutAffixes]
  cases h with
  | key hk he hr ht =>
      -- The key is a scalar and stays as it is. What is renamed is its relation.
      refine .key hk ((scalarType_renamed hk).trans he) ?_
        (ht.renamed named apart (kind_of_relationFor? objects hr))
      show (d.renamedModel c p m).relationFor? f.name = _
      rw [relationFor?_renamed, hr, Option.map_some]
  | plain hk he hr ht =>
      refine .plain hk ((scalarType_renamed hk).trans he) ?_ ht
      show (d.renamedModel c p m).relationFor? f.name = _
      rw [relationFor?_renamed, hr, Option.map_none]
  | composite hk refers => exact .composite hk (refers.renamed named apart hk)
  | model hk refers => exact .model hk (refers.renamed named apart hk)
  | enum hk hv =>
      have same : (d.renamedField c f).type = .str (c.rendered .enums f.type) :=
        renamedType_enum named hk hv
      have hw : (d.renamedField c f).type ∈ (d.renamed c).names .enums := by
        rw [same]
        exact renamed_mem hv
      have ht : (d.renamed c).HasType c.withoutAffixes (d.renamedModel c p m) (d.renamedField c f)
          (.enum (c.withoutAffixes.rendered .enums (d.renamedField c f).type)) := .enum hk hw
      rwa [same, rendered_withoutAffixes] at ht
  | any hk => exact .any hk

end Datamodel

namespace TypeScript

/-! ## Declarations of renamed models -/

section Declarations

variable {c : Config} {d : Datamodel} {n n' : Naming}

theorem property_renamed (named : d.Named) (renders : n.Renders c d)
    (renders' : n'.Renders c.withoutAffixes (d.renamed c)) {p : Part} {m : Model}
    (objects : ∀ f ∈ m.fields, f.fromFields ≠ [] → f.kind = .object) {f : Field}
    {o : Option Property} (h : property c n m f = .ok o) :
    property c.withoutAffixes n' (d.renamedModel c p m) (d.renamedField c f) = .ok o := by
  obtain ⟨t, ht, rfl⟩ := property_eq_ok.1 h
  have hasType := (fieldType_eq_ok renders named).1 ht
  have renamed := hasType.renamed named (renders.apart named) (p := p) objects
  exact property_eq_ok.2 ⟨t, (fieldType_eq_ok renders' named.renamed).2 renamed, rfl⟩

theorem properties_renamed (named : d.Named) (renders : n.Renders c d)
    (renders' : n'.Renders c.withoutAffixes (d.renamed c)) {p : Part} {m : Model}
    (objects : ∀ f ∈ m.fields, f.fromFields ≠ [] → f.kind = .object) {ps : List Property}
    (h : properties c n m = .ok ps) :
    properties c.withoutAffixes n' (d.renamedModel c p m) = .ok ps := by
  obtain ⟨found, hf, rfl⟩ := properties_eq_ok.1 h
  refine properties_eq_ok.2 ⟨found, ?_, rfl⟩
  exact mapM_map_eq_ok (fun f _ o => property_renamed named renders renders' objects) hf

theorem modelDeclaration_renamed (named : d.Named) (renders : n.Renders c d)
    (renders' : n'.Renders c.withoutAffixes (d.renamed c)) {p : Part} (notEnum : p ≠ .enums)
    (disjoint : ∀ w ∈ d.names .models, w ∉ d.names .types) {m : Model} (hm : m.name ∈ d.names p)
    (objects : ∀ f ∈ m.fields, f.fromFields ≠ [] → f.kind = .object) {decl : ModelDeclaration}
    (h : modelDeclaration c n m = .ok decl) :
    modelDeclaration c.withoutAffixes n' (d.renamedModel c p m) = .ok decl := by
  obtain ⟨hs, hp, hn⟩ := modelDeclaration_eq_ok.1 h
  exact modelDeclaration_eq_ok.2 ⟨hs, properties_renamed named renders renders' objects hp,
    renders.declarationName_renamed named renders' notEnum hm disjoint hn⟩

theorem enumDeclaration_renamed (named : d.Named) (renders : n.Renders c d)
    (renders' : n'.Renders c.withoutAffixes (d.renamed c)) {e : Enumeration}
    {decl : EnumDeclaration} (h : enumDeclaration c n e = .ok decl) :
    enumDeclaration c.withoutAffixes n' (Datamodel.renamedEnum c e) = .ok decl := by
  obtain ⟨hs, hn, hv⟩ := enumDeclaration_eq_ok.1 h
  obtain ⟨he, hr⟩ := (renders.get_eq_some named (p := .enums)).1 hn
  refine enumDeclaration_eq_ok.2 ⟨hs, ?_, hv⟩
  refine (renders'.get_eq_some named.renamed (p := .enums)).2 ⟨Datamodel.renamed_mem he, ?_⟩
  show decl.name = c.withoutAffixes.rendered .enums (.str (c.rendered .enums e.name))
  rw [rendered_withoutAffixes, hr]

theorem declarations_renamed (named : d.Named) (renders : n.Renders c d)
    (renders' : n'.Renders c.withoutAffixes (d.renamed c))
    (disjoint : ∀ w ∈ d.names .models, w ∉ d.names .types) (objects : d.RelationsAreObjects)
    {ds : Declarations} (h : declarations c n d = .ok ds) :
    declarations c.withoutAffixes n' (d.renamed c) = .ok ds := by
  obtain ⟨he, hm, ht⟩ := declarations_eq_ok.1 h
  refine declarations_eq_ok.2 ⟨?_, ?_, ?_⟩
  · exact mapM_map_eq_ok (fun e _ decl => enumDeclaration_renamed named renders renders') he
  · refine mapM_map_eq_ok (fun m mem decl => ?_) hm
    exact modelDeclaration_renamed named renders renders' (by decide) disjoint
      (List.mem_map_of_mem mem) (objects m (List.mem_append_left _ mem))
  · refine mapM_map_eq_ok (fun m mem decl => ?_) ht
    exact modelDeclaration_renamed named renders renders' (by decide) disjoint
      (List.mem_map_of_mem mem) (objects m (List.mem_append_right _ mem))

/-! ## Files of renamed data models -/

theorem fieldHelper?_renamed (c : Config) (d : Datamodel) (f : Field) :
    fieldHelper? c.withoutAffixes (d.renamedField c f) = fieldHelper? c f := by
  rw [fieldHelper?, fieldHelper?, Datamodel.renamedField, Datamodel.renamedType]
  cases f.kind with
  | scalar => simp only [helperOfTag?, scalarType_withoutAffixes]
  | object | enum | unsupported => rfl

/-- The helper types of a renamed model are those of the model. -/
theorem helpers_renamed (c : Config) (d : Datamodel) (p : Part) (m : Model) :
    (d.renamedModel c p m).fields.filterMap (fieldHelper? c.withoutAffixes) =
      m.fields.filterMap (fieldHelper? c) := by
  show (m.fields.map (d.renamedField c)).filterMap _ = _
  rw [List.filterMap_map]
  exact List.filterMap_congr fun f _ => fieldHelper?_renamed c d f

theorem usedHelpers_renamed {ds : Declarations} (h : declarations c n d = .ok ds)
    (h' : declarations c.withoutAffixes n' (d.renamed c) = .ok ds) :
    usedHelpers c.withoutAffixes n' (d.renamed c) = usedHelpers c n d := by
  rw [usedHelpers_eq h, usedHelpers_eq h', List.flatMap_append, List.flatMap_append]
  have part (p : Part) (l : List Model) :
      (l.map (d.renamedModel c p)).flatMap
          (fun m => m.fields.filterMap (fieldHelper? c.withoutAffixes)) =
        l.flatMap fun m => m.fields.filterMap (fieldHelper? c) := by
    rw [List.flatMap_map]
    exact List.flatMap_congr fun m _ => helpers_renamed c d p m
  rw [← part .models, ← part .types]
  rfl

/-- The renamed data model has the file of the data model. -/
theorem file_renamed (named : d.Named) (renders : n.Renders c d)
    (renders' : n'.Renders c.withoutAffixes (d.renamed c))
    (disjoint : ∀ w ∈ d.names .models, w ∉ d.names .types) (objects : d.RelationsAreObjects)
    {code : String} (h : file c n d = .ok code) :
    file c.withoutAffixes n' (d.renamed c) = .ok code := by
  obtain ⟨ds, before, after, hd, hb, ha, rfl⟩ := file_eq_ok.1 h
  have hd' := declarations_renamed named renders renders' disjoint objects hd
  refine file_eq_ok.2 ⟨ds, before, after, hd', hb, ha, ?_⟩
  rw [usedHelpers_renamed hd hd']
  rfl

end Declarations

end TypeScript

end Typewright
