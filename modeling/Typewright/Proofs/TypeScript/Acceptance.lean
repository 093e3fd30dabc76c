import Typewright.Proofs.Config
import Typewright.Proofs.Generation
import Typewright.Proofs.TypeScript.Typing

/-!
# When TypeScript generation succeeds

`Accepted` says of a configuration and a data model that the naming finds no collision, that the
shapes in use are known, and that every field of every model and composite type resolves
(`Datamodel.Resolves`). The main statement is that generation succeeds exactly then, for
well-typed configurations and data models whose declarations have names and whose fields have
documentation that can be read. Nothing is generated in part: in every other case the result is a
failure.

The steps follow the definitions. A field has a type exactly when it resolves
(`exists_hasType_iff`); a model has a declaration exactly when its shape is known and all its
fields resolve, and so on outwards.
-/

namespace Typewright

/-! ## Fields that resolve -/

namespace Datamodel

/-- Whether a relation gives its first key a type: it leads to a composite type, or to a model of
which it names a field. -/
def KeyResolves (d : Datamodel) (relation : Field) : Prop :=
  relation.type ∈ d.names .types ∨ relation.type ∈ d.names .models ∧ relation.toFields ≠ []

/-- Whether a field of a model has a type. -/
def Resolves (d : Datamodel) (m : Model) (f : Field) : Prop :=
  match f.kind with
  | .scalar =>
      (∃ s : Scalar, f.type = .str s.tag) ∧
        ∀ relation, m.relationFor? f.name = some relation → d.KeyResolves relation
  | .object => f.type ∈ d.names .types ∨ f.type ∈ d.names .models
  | .enum => f.type ∈ d.names .enums
  | .unsupported => True

/-- Whether the documentation of every field is a text or nothing. -/
def Documented (d : Datamodel) : Prop :=
  ∀ m ∈ d.models ++ d.types, ∀ f ∈ m.fields, f.documentation = .null ∨ f.documentation.IsText

theorem journal_documented : journal.Documented := by
  have all : ∀ m ∈ journal.models ++ journal.types, ∀ f ∈ m.fields, f.documentation = .null := by
    simp [journal, plainField]
  exact fun m hm f hf => Or.inl (all m hm f hf)

/-- A relation leads to a composite type or model exactly if its type is a name of one. -/
theorem exists_refers_iff {c : Config} {d : Datamodel} {v : Value} :
    (∃ r, d.Refers c v r) ↔ v ∈ d.names .types ∨ v ∈ d.names .models := by
  constructor
  · rintro ⟨r, hr⟩
    cases hr with
    | composite hv => exact Or.inl hv
    | model _ hv => exact Or.inr hv
  · intro h
    by_cases ht : v ∈ d.names .types
    · exact ⟨_, .composite ht⟩
    · exact ⟨_, .model ht (h.resolve_left ht)⟩

end Datamodel

namespace TypeScript

open Datamodel (journal journal_named journal_documented plainField)

/-- What TypeScript generation asks of a configuration and a data model. -/
structure Accepted (c : Config) (d : Datamodel) : Prop where
  /-- No names collide. -/
  noCollision : ∀ rendered raws, Naming.build c d ≠ .error (.collision rendered raws)
  /-- The shape of enums is known, if there are any. -/
  enums : d.enums = [] ∨ ∃ word ∈ enumShapes, c.value .enumType = .str word
  /-- The shape of models is known, if there are models or composite types. -/
  models : (d.models = [] ∧ d.types = []) ∨ ∃ word ∈ modelShapes, c.value .modelType = .str word
  /-- Every field resolves. -/
  fields : ∀ m ∈ d.models ++ d.types, ∀ f ∈ m.fields, d.Resolves m f

/-! ## Shapes -/

theorem exists_enumShape_iff {c : Config} :
    (∃ shape, enumShape c = .ok shape) ↔ ∃ word ∈ enumShapes, c.value .enumType = .str word := by
  constructor
  · rintro ⟨shape, h⟩
    exact ⟨_, EnumShape.mem_enumShapes.2 ⟨shape, rfl⟩, enumShape_eq_ok.1 h⟩
  · rintro ⟨word, hw, hv⟩
    obtain ⟨shape, rfl⟩ := EnumShape.mem_enumShapes.1 hw
    exact ⟨shape, enumShape_eq_ok.2 hv⟩

theorem exists_modelShape_iff {c : Config} :
    (∃ shape, modelShape c = .ok shape) ↔
      ∃ word ∈ modelShapes, c.value .modelType = .str word := by
  constructor
  · rintro ⟨shape, h⟩
    exact ⟨_, ModelShape.mem_modelShapes.2 ⟨shape, rfl⟩, modelShape_eq_ok.1 h⟩
  · rintro ⟨word, hw, hv⟩
    obtain ⟨shape, rfl⟩ := ModelShape.mem_modelShapes.1 hw
    exact ⟨shape, modelShape_eq_ok.2 hv⟩

/-! ## Types of fields -/

/-- A text can be put in parentheses. -/
theorem groupUnion_text (s : String) : ∃ t, groupUnion (.str s) = .ok (.str t) := by
  by_cases h : s.toList.contains '|'
  · exact ⟨_, by rw [groupUnion, holdsBar, h]; rfl⟩
  · exact ⟨s, by rw [groupUnion, holdsBar, Bool.eq_false_iff.2 h]; rfl⟩

theorem scalarExpression_text {c : Config} (typed : c.WellTyped) (s : Scalar) :
    ∃ t, scalarExpression c s = .ok (.str t) := by
  have configured (x : Setting) (hx : x.type = .text) :
      ∃ t, groupUnion (c.value x) = .ok (.str t) := by
    have hv := typed x
    rw [hx] at hv
    obtain ⟨t, ht⟩ := hv
    rw [ht]
    exact groupUnion_text t
  cases s with
  | dateTime => exact configured .dateType rfl
  | bigInt => exact configured .bigIntType rfl
  | decimal => exact configured .decimalType rfl
  | bytes => exact configured .bytesType rfl
  | _ => exact ⟨_, rfl⟩

/-- A scalar has a type exactly when its tag is registered. -/
theorem exists_scalarType_iff {c : Config} (typed : c.WellTyped) {tag : Value} :
    (∃ t, scalarType c tag = .ok t) ↔ ∃ s : Scalar, tag = .str s.tag := by
  constructor
  · rintro ⟨t, h⟩
    obtain ⟨v, hv, _⟩ := bind_eq_ok.1 h
    cases hs : Scalar.ofTag? tag with
    | some s => exact ⟨s, Scalar.ofTag?_eq_some.1 hs⟩
    | none =>
        rw [tagExpression, hs] at hv
        exact absurd hv mismatched_ne_ok
  · rintro ⟨s, rfl⟩
    obtain ⟨t, ht⟩ := scalarExpression_text typed s
    have he : tagExpression c (.str s.tag) = .ok (.str t) := by
      rw [tagExpression, Scalar.ofTag?_tag]
      exact ofMisuse_eq_ok.2 ht
    exact ⟨t, by rw [scalarType, he]; rfl⟩

/-- Documentation that is a text or nothing can be read. -/
theorem exists_plainType {c : Config} {f : Field} (expression : String)
    (documented : f.documentation = .null ∨ f.documentation.IsText) :
    ∃ t, plainType c f expression = .ok t := by
  rcases documented with h | ⟨s, h⟩
  · exact ⟨.scalar expression, by rw [plainType, h]; rfl⟩
  · have present : ∃ b, Annotations.present f.documentation = .ok b := by
      rw [h, Annotations.present]
      by_cases hs : (Value.str s).truthy
      · exact ⟨_, by rw [if_pos hs]; rfl⟩
      · exact ⟨_, by rw [if_neg hs]; rfl⟩
    obtain ⟨b, hb⟩ := present
    rw [plainType, hb, ofMisuse_eq_ok.2 rfl, ok_bind]
    cases b with
    | true => exact ⟨_, by rw [if_pos rfl, h]; rfl⟩
    | false => exact ⟨.scalar expression, rfl⟩

/-- A relation gives its first key a type exactly when it resolves. -/
theorem exists_hasKeyType_iff {c : Config} {d : Datamodel} {relation : Field} :
    (∃ t, d.HasKeyType c relation t) ↔ d.KeyResolves relation := by
  constructor
  · rintro ⟨t, ht⟩
    cases ht with
    | composite refers =>
        cases refers with
        | composite hv => exact Or.inl hv
    | model refers hk =>
        cases refers with
        | model _ hv =>
            refine Or.inr ⟨hv, ?_⟩
            rw [hk]
            exact List.cons_ne_nil _ _
  · intro h
    by_cases isType : relation.type ∈ d.names .types
    · exact ⟨_, .composite (.composite isType)⟩
    · obtain ⟨isModel, fields⟩ := h.resolve_left isType
      obtain ⟨field, rest, hk⟩ := List.exists_cons_of_ne_nil fields
      exact ⟨_, .model (.model isType isModel) hk⟩

/-- A field has a type exactly when it resolves. -/
theorem exists_hasType_iff {c : Config} {d : Datamodel} (typed : c.WellTyped) {m : Model}
    {f : Field} (documented : f.documentation = .null ∨ f.documentation.IsText) :
    (∃ t, d.HasType c m f t) ↔ d.Resolves m f := by
  rw [Datamodel.Resolves]
  constructor
  · rintro ⟨t, ht⟩
    cases ht with
    | key hk he hr hkey =>
        rw [hk]
        refine ⟨(exists_scalarType_iff typed).1 ⟨_, he⟩, fun relation h => ?_⟩
        rw [hr] at h
        cases h
        exact exists_hasKeyType_iff.1 ⟨t, hkey⟩
    | plain hk he hr _ =>
        rw [hk]
        refine ⟨(exists_scalarType_iff typed).1 ⟨_, he⟩, fun relation h => ?_⟩
        rw [hr] at h
        cases h
    | composite hk refers =>
        rw [hk]
        exact Datamodel.exists_refers_iff.1 ⟨_, refers⟩
    | model hk refers =>
        rw [hk]
        exact Datamodel.exists_refers_iff.1 ⟨_, refers⟩
    | enum hk hv =>
        rw [hk]
        exact hv
    | any hk =>
        rw [hk]
        exact trivial
  · intro h
    cases hk : f.kind with
    | scalar =>
        rw [hk] at h
        obtain ⟨tag, keys⟩ := h
        obtain ⟨expression, he⟩ := (exists_scalarType_iff typed).2 tag
        cases hr : m.relationFor? f.name with
        | some relation =>
            obtain ⟨t, ht⟩ := (exists_hasKeyType_iff (c := c)).2 (keys relation hr)
            exact ⟨t, .key hk he hr ht⟩
        | none =>
            obtain ⟨t, ht⟩ := exists_plainType expression documented
            exact ⟨t, .plain hk he hr ht⟩
    | object =>
        rw [hk] at h
        obtain ⟨r, refers⟩ := (Datamodel.exists_refers_iff (c := c)).2 h
        cases r with
        | composite name => exact ⟨_, .composite hk refers⟩
        | model name => exact ⟨_, .model hk refers⟩
    | enum =>
        rw [hk] at h
        exact ⟨_, .enum hk h⟩
    | unsupported => exact ⟨_, .any hk⟩

section Declarations

variable {c : Config} {n : Naming} {d : Datamodel}

/-! ## Declarations -/

/-- A model or composite type has a name to be declared under. -/
theorem exists_declarationName (renders : n.Renders c d) (named : d.Named) {m : Model}
    (hm : m ∈ d.models ++ d.types) : ∃ name, n.declarationName m.name = .ok name := by
  by_cases hv : m.name ∈ d.names .models
  · exact ⟨_, (renders.declarationName_eq_ok named).2 (Or.inl ⟨hv, rfl⟩)⟩
  · have ht : m.name ∈ d.names .types := by
      cases List.mem_append.1 hm with
      | inl h => exact absurd (List.mem_map_of_mem h) hv
      | inr h => exact List.mem_map_of_mem h
    exact ⟨_, (renders.declarationName_eq_ok named).2 (Or.inr ⟨hv, ht, rfl⟩)⟩

/-- A model has a declaration exactly when its shape is known and its fields resolve. -/
theorem exists_modelDeclaration_iff (typed : c.WellTyped) (renders : n.Renders c d)
    (named : d.Named) (documented : d.Documented) {m : Model} (hm : m ∈ d.models ++ d.types) :
    (∃ decl, modelDeclaration c n m = .ok decl) ↔
      (∃ word ∈ modelShapes, c.value .modelType = .str word) ∧ ∀ f ∈ m.fields, d.Resolves m f := by
  have resolves {f : Field} (hf : f ∈ m.fields) :
      (∃ t, fieldType c n m f = .ok t) ↔ d.Resolves m f := by
    rw [← exists_hasType_iff (c := c) typed (documented m hm f hf)]
    exact exists_congr fun t => fieldType_eq_ok renders named
  rw [← exists_modelShape_iff]
  constructor
  · rintro ⟨decl, h⟩
    obtain ⟨hs, hp, _⟩ := modelDeclaration_eq_ok.1 h
    exact ⟨⟨_, hs⟩, fun f hf => (resolves hf).1 (fieldType_of_properties hp f hf)⟩
  · rintro ⟨⟨shape, hs⟩, fields⟩
    have found : ∃ found, m.fields.mapM (property c n m) = .ok found := by
      rw [exists_mapM_eq_ok]
      intro f hf
      obtain ⟨t, ht⟩ := (resolves hf).2 (fields f hf)
      exact ⟨_, property_eq_ok.2 ⟨t, ht, rfl⟩⟩
    obtain ⟨found, hf⟩ := found
    obtain ⟨name, hn⟩ := exists_declarationName renders named hm
    exact ⟨⟨name, shape, found.filterMap id⟩,
      modelDeclaration_eq_ok.2 ⟨hs, properties_eq_ok.2 ⟨found, hf, rfl⟩, hn⟩⟩

theorem exists_enumDeclaration_iff (renders : n.Renders c d) (named : d.Named) {e : Enumeration}
    (he : e ∈ d.enums) :
    (∃ decl, enumDeclaration c n e = .ok decl) ↔
      ∃ word ∈ enumShapes, c.value .enumType = .str word := by
  rw [← exists_enumShape_iff]
  constructor
  · rintro ⟨decl, h⟩
    exact ⟨_, (enumDeclaration_eq_ok.1 h).1⟩
  · rintro ⟨shape, hs⟩
    have hn := (renders.get_eq_some named (p := .enums)).2 ⟨List.mem_map_of_mem he, rfl⟩
    exact ⟨⟨_, shape, e.values⟩, enumDeclaration_eq_ok.2 ⟨hs, hn, rfl⟩⟩

/-- The shape of some list is either known or not needed. -/
theorem forall_const_iff {α : Type} {l : List α} {p : Prop} :
    (∀ a ∈ l, p) ↔ l = [] ∨ p := by
  cases l with
  | nil => simp
  | cons a l =>
      rw [List.forall_mem_cons]
      constructor
      · rintro ⟨hp, _⟩
        exact Or.inr hp
      · intro h
        have hp : p := h.resolve_left (List.cons_ne_nil a l)
        exact ⟨hp, fun _ _ => hp⟩

/-- A data model has declarations exactly when what is in use is known and resolves. -/
theorem exists_declarations_iff (typed : c.WellTyped) (renders : n.Renders c d)
    (named : d.Named) (documented : d.Documented) :
    (∃ ds, declarations c n d = .ok ds) ↔
      (d.enums = [] ∨ ∃ word ∈ enumShapes, c.value .enumType = .str word) ∧
        ((d.models = [] ∧ d.types = []) ∨
          ∃ word ∈ modelShapes, c.value .modelType = .str word) ∧
        ∀ m ∈ d.models ++ d.types, ∀ f ∈ m.fields, d.Resolves m f := by
  have models (l : List Model) (hl : ∀ m ∈ l, m ∈ d.models ++ d.types) :
      (∃ decls, l.mapM (modelDeclaration c n) = .ok decls) ↔
        (∀ m ∈ l, ∃ word ∈ modelShapes, c.value .modelType = .str word) ∧
          ∀ m ∈ l, ∀ f ∈ m.fields, d.Resolves m f := by
    rw [exists_mapM_eq_ok, ← forall₂_and]
    refine forall₂_congr fun m hm => ?_
    exact exists_modelDeclaration_iff typed renders named documented (hl m hm)
  have enums : (∃ decls, d.enums.mapM (enumDeclaration c n) = .ok decls) ↔
      d.enums = [] ∨ ∃ word ∈ enumShapes, c.value .enumType = .str word := by
    rw [exists_mapM_eq_ok, ← forall_const_iff]
    exact forall₂_congr fun e he => exists_enumDeclaration_iff renders named he
  have all := models (d.models ++ d.types) fun m hm => hm
  rw [forall_const_iff, List.append_eq_nil_iff] at all
  rw [← enums, ← all]
  exact exists_declarations_eq_ok

end Declarations

/-- Code from a configuration is a text or nothing. -/
theorem exists_codeSection {c : Config} {s : Setting}
    (code : c.value s = .null ∨ ∃ t, c.value s = .str t) : ∃ l, codeSection c s = .ok l := by
  rcases code with h | ⟨t, h⟩
  · exact ⟨[], by rw [codeSection, h]; rfl⟩
  · by_cases ht : (Value.str t).truthy
    · exact ⟨_, by rw [codeSection, h]; simp only [ht, if_true]; rfl⟩
    · exact ⟨[], by rw [codeSection, h]; simp only [ht, if_false, Bool.false_eq_true]⟩

/-- TypeScript generation succeeds exactly for what is accepted, and is a failure otherwise. -/
theorem generate_isOk_iff_accepted {directory : List String} {c : Config} {d : Datamodel}
    (typed : c.WellTyped) (named : d.Named) (documented : d.Documented) :
    ((∃ g, generate .typeScript directory c d = .ok g) ↔ Accepted c d) ∧
      (¬ Accepted c d → ∃ f, generate .typeScript directory c d = .error f ∧
        f.stage = .generating) := by
  have accepted : (∃ g, generate .typeScript directory c d = .ok g) ↔ Accepted c d := by
    constructor
    · rintro ⟨g, h⟩
      obtain ⟨n, code, hn, hc, _⟩ := generate_eq_ok.1 h
      obtain ⟨ds, _, _, hd, _, _, _⟩ := file_eq_ok.1 hc
      have renders := Naming.build_renders named hn
      obtain ⟨he, hm, hf⟩ := (exists_declarations_iff typed renders named documented).1 ⟨ds, hd⟩
      refine ⟨fun rendered raws collision => ?_, he, hm, hf⟩
      rw [hn] at collision
      cases collision
    · rintro ⟨noCollision, he, hm, hf⟩
      have naming : ∃ n, Naming.build c d = .ok n := by
        cases hb : Naming.build c d with
        | ok n => exact ⟨n, rfl⟩
        | error f =>
            obtain ⟨r, raws, rfl⟩ := Naming.build_error named hb
            exact absurd hb (noCollision r raws)
      obtain ⟨n, hn⟩ := naming
      have renders := Naming.build_renders named hn
      obtain ⟨ds, hd⟩ := (exists_declarations_iff typed renders named documented).2 ⟨he, hm, hf⟩
      obtain ⟨before, hb⟩ := exists_codeSection (typed .prefixCode)
      obtain ⟨after, ha⟩ := exists_codeSection (typed .suffixCode)
      exact ⟨_, generate_eq_ok.2
        ⟨n, _, hn, file_eq_ok.2 ⟨ds, before, after, hd, hb, ha, rfl⟩, rfl⟩⟩
  refine ⟨accepted, fun refused => ?_⟩
  cases h : generate .typeScript directory c d with
  | ok g => exact absurd (accepted.1 ⟨g, h⟩) refused
  | error f => exact ⟨f, rfl, generate_error h⟩

/-- The posts of users are generated, and refused without the enum that a field refers to. -/
theorem journal_generated :
    Config.default.WellTyped ∧ journal.Named ∧ journal.Documented ∧
      (∃ g, generate .typeScript ["src"] Config.default journal = .ok g) ∧
      { journal with enums := [] }.Named ∧ { journal with enums := [] }.Documented ∧
      ∃ f, generate .typeScript ["src"] Config.default { journal with enums := [] } = .error f ∧
        f.stage = .generating := by
  have named : { journal with enums := [] }.Named := by
    intro p v hv
    cases p with
    | models => exact journal_named .models v hv
    | enums => cases hv
    | types => exact journal_named .types v hv
  have accepted : Accepted Config.default journal := by
    refine ⟨fun rendered raws collision => ?_, Or.inr ⟨_, by decide, rfl⟩,
      Or.inr ⟨_, by decide, rfl⟩, ?_⟩
    · have isOk : (Naming.build Config.default journal).isOk = true := by decide
      rw [collision] at isOk
      cases isOk
    · have int : ∃ s : Scalar, "Int" = s.tag := ⟨.int, rfl⟩
      have dateTime : ∃ s : Scalar, "DateTime" = s.tag := ⟨.dateTime, rfl⟩
      simp [journal, plainField, Datamodel.Resolves, Datamodel.names, Datamodel.KeyResolves,
        Model.relationFor?, int, dateTime]
  have refused : ¬ Accepted Config.default { journal with enums := [] } := by
    intro h
    have role := h.fields _ List.mem_cons_self (plainField "role" .enum "Role") (by simp)
    cases role
  exact ⟨Config.default_wellTyped, journal_named, journal_documented,
    (generate_isOk_iff_accepted Config.default_wellTyped journal_named
      journal_documented).1.2 accepted,
    named, journal_documented,
    (generate_isOk_iff_accepted Config.default_wellTyped named journal_documented).2 refused⟩

end TypeScript

end Typewright
