import Typewright.Proofs.Naming
import Typewright.Proofs.TypeScript.File

/-!
# Types of fields, by the data model

`Datamodel.HasType` says which type a field of a model has, with names looked up in the data model
itself and not in a naming: one case for each way to a type. `fieldType_eq_ok` is the main
statement, that under a naming of the data model fields are given exactly these types. What the
types of a file mean can be read off from the cases, without a lookup in a map.
-/

namespace Typewright

open TypeScript (FieldType scalarType plainType)

namespace Datamodel

/-- The type of the first key of a relation. -/
inductive HasKeyType (c : Config) (d : Datamodel) (relation : Field) : FieldType → Prop
  /-- A composite type has no keys, so it is the type itself. -/
  | composite {name : String} :
      d.Refers c relation.type (.composite name) → HasKeyType c d relation (.composite name)
  /-- The type of the field that the relation names first. -/
  | model {name : String} {field : Value} {rest : List Value} :
      d.Refers c relation.type (.model name) → relation.toFields = field :: rest →
      HasKeyType c d relation (.key name field)

/-- The type of a field of a model. -/
inductive HasType (c : Config) (d : Datamodel) (m : Model) (f : Field) : FieldType → Prop
  /-- A scalar that is the first key of a relation. -/
  | key {expression : String} {relation : Field} {t : FieldType} :
      f.kind = .scalar → scalarType c f.type = .ok expression →
      m.relationFor? f.name = some relation → d.HasKeyType c relation t → HasType c d m f t
  /-- A scalar that is in no key, or not the first one. -/
  | plain {expression : String} {t : FieldType} :
      f.kind = .scalar → scalarType c f.type = .ok expression →
      m.relationFor? f.name = none → plainType c f expression = .ok t → HasType c d m f t
  /-- A composite type. -/
  | composite {name : String} :
      f.kind = .object → d.Refers c f.type (.composite name) → HasType c d m f (.composite name)
  /-- A relation to a model. -/
  | model {name : String} :
      f.kind = .object → d.Refers c f.type (.model name) → HasType c d m f (.model name)
  /-- An enum. -/
  | enum :
      f.kind = .enum → f.type ∈ d.names .enums → HasType c d m f (.enum (c.rendered .enums f.type))
  /-- A type that is not supported. -/
  | any : f.kind = .unsupported → HasType c d m f .any

end Datamodel

namespace TypeScript

open Datamodel (HasKeyType HasType)

section Lookups

variable {c : Config} {n : Naming} {d : Datamodel}

/-- The first key of a relation is given exactly the types that it has. -/
theorem keyType_iff_hasKeyType (renders : n.Renders c d) (named : d.Named) {m : Model}
    {relation : Field} {t : FieldType} :
    keyType n m relation = .ok t ↔ d.HasKeyType c relation t := by
  rw [keyType_eq_ok]
  simp only [renders.resolve_eq_some named]
  constructor
  · rintro (⟨name, refers, rfl⟩ | ⟨name, field, rest, refers, hk, rfl⟩)
    · exact .composite refers
    · exact .model refers hk
  · intro h
    cases h with
    | composite refers => exact Or.inl ⟨_, refers, rfl⟩
    | model refers hk => exact Or.inr ⟨_, _, _, refers, hk, rfl⟩

/-- What an object is given is a type that it has. -/
theorem hasType_of_objectFieldType (renders : n.Renders c d) (named : d.Named) {m : Model}
    {f : Field} {t : FieldType} (hk : f.kind = .object) (h : objectFieldType n f = .ok t) :
    d.HasType c m f t := by
  obtain ⟨name, hr, rfl⟩ | ⟨name, hr, rfl⟩ := objectFieldType_eq_ok.1 h
  · exact .composite hk ((renders.resolve_eq_some named).1 hr)
  · exact .model hk ((renders.resolve_eq_some named).1 hr)

/-- What a scalar is given is a type that it has. -/
theorem hasType_of_scalarFieldType (renders : n.Renders c d) (named : d.Named) {m : Model}
    {f : Field} {t : FieldType} (hk : f.kind = .scalar) (h : scalarFieldType c n m f = .ok t) :
    d.HasType c m f t := by
  obtain ⟨expression, he, h⟩ := bind_eq_ok.1 h
  cases hr : m.relationFor? f.name with
  | some relation =>
      rw [hr] at h
      exact .key hk he hr ((keyType_iff_hasKeyType renders named).1 h)
  | none =>
      rw [hr] at h
      exact .plain hk he hr h

theorem hasType_of_fieldType (renders : n.Renders c d) (named : d.Named) {m : Model} {f : Field}
    {t : FieldType} (h : fieldType c n m f = .ok t) : d.HasType c m f t := by
  rw [fieldType] at h
  cases hk : f.kind with
  | scalar =>
      rw [hk] at h
      exact hasType_of_scalarFieldType renders named hk h
  | object =>
      rw [hk] at h
      exact hasType_of_objectFieldType renders named hk h
  | enum =>
      rw [hk] at h
      obtain ⟨name, hn, rfl⟩ := map_eq_ok.1 h
      obtain ⟨hv, rfl⟩ := (renders.enumName_eq_ok named).1 hn
      exact .enum hk hv
  | unsupported =>
      rw [hk] at h
      cases h
      exact .any hk

/-- Fields are given exactly the types that they have by the data model. -/
theorem fieldType_eq_ok (renders : n.Renders c d) (named : d.Named) {m : Model} {f : Field}
    {t : FieldType} : fieldType c n m f = .ok t ↔ d.HasType c m f t := by
  constructor
  · exact hasType_of_fieldType renders named
  · intro h
    cases h with
    | key hk he hr ht =>
        rw [fieldType, hk]
        refine bind_eq_ok.2 ⟨_, he, ?_⟩
        rw [hr]
        exact (keyType_iff_hasKeyType renders named).2 ht
    | plain hk he hr ht =>
        rw [fieldType, hk]
        refine bind_eq_ok.2 ⟨_, he, ?_⟩
        rw [hr]
        exact ht
    | composite hk refers | model hk refers =>
        rw [fieldType, hk]
        exact bind_eq_ok.2 ⟨_, ofMisuse_eq_ok.2 ((renders.resolve_eq_some named).2 refers), rfl⟩
    | enum hk hv =>
        rw [fieldType, hk]
        exact map_eq_ok.2 ⟨_, (renders.enumName_eq_ok named).2 ⟨hv, rfl⟩, rfl⟩
    | any hk =>
        rw [fieldType, hk]

end Lookups

end TypeScript

end Typewright
