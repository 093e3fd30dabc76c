import Typewright.Proofs.Generation
import Typewright.Proofs.TypeScript.Acceptance

/-!
# When schemas are generated

`Zod.Accepted` says of a configuration and a data model that no names collide, that every enum a
field of a model refers to is declared, and, where only registered scalars are admitted, that every
scalar is registered. Schemas are generated exactly then. This is less than declarations ask for,
which check composite types and relations too, so whatever has declarations has schemas.

Schemas are values, and a file of them is run from its head on. So an enum has to be declared before
the model that refers to it. It is, whatever the order of the document, because all enums come first
(`declaredFirst`).

Where all scalars are admitted, the ones that are not registered take any value, and there is a
remark on each. `schemas_generated_iff` puts this together.
-/

namespace Typewright

/-! ## Scalars that are not registered -/

/-- A scalar field has a tag that is not registered. -/
def Field.Unregistered (f : Field) : Prop :=
  f.kind = .scalar ∧ ∀ s : Scalar, f.type ≠ .str s.tag

theorem Scalar.ofTag?_eq_none {v : Value} : ofTag? v = none ↔ ∀ s : Scalar, v ≠ .str s.tag := by
  rw [Option.eq_none_iff_forall_ne_some]
  exact forall_congr' fun s => not_congr ofTag?_eq_some

instance (f : Field) : Decidable f.Unregistered :=
  decidable_of_iff (f.kind = .scalar ∧ Scalar.ofTag? f.type = none)
    (and_congr_right fun _ => Scalar.ofTag?_eq_none)

/-- The fields of models that have a tag which is not registered, in order, with their models. -/
def Datamodel.unregistered (d : Datamodel) : List (Model × Field) :=
  d.models.flatMap fun m => (m.fields.filter (·.Unregistered)).map fun f => (m, f)

namespace Remark

/-- Whether a remark is on a scalar that is not registered. -/
def isUnknownScalar : Remark → Bool
  | unknownScalar _ _ _ => true
  | _ => false

/-- The remark on a field of a model with a tag that is not registered. -/
def takesAnything (p : Model × Field) : Remark := unknownScalar p.2.type p.1.name p.2.name

theorem unknownScalars_eq (m : Model) :
    unknownScalars m =
      ((m.fields.filter (·.Unregistered)).map fun f => (m, f)).map takesAnything := by
  have unregistered (f : Field) :
      (f.kind == .scalar && f.scalar?.isNone) = decide f.Unregistered := by
    rw [Bool.eq_iff_iff, decide_eq_true_iff, Bool.and_eq_true, beq_iff_eq,
      Option.isNone_iff_eq_none, Field.Unregistered, ← Scalar.ofTag?_eq_none]
    refine and_congr_right fun hk => ?_
    rw [Field.scalar?, hk]
  rw [unknownScalars, List.map_map]
  simp only [unregistered]
  rfl

/-- Where all scalars are admitted, there is a remark on each that is not registered. -/
theorem special_zod {c : Config} (lenient : c.flag .strictValidationScalars = false)
    (d : Datamodel) : special .zod c d = d.unregistered.map takesAnything := by
  rw [special, lenient, Datamodel.unregistered, List.map_flatMap]
  exact List.flatMap_congr fun m _ => unknownScalars_eq m

/-- What concerns every target is no remark on a scalar. -/
theorem isUnknownScalar_of_mem_general {d : Datamodel} {r : Remark} (h : r ∈ general d) :
    r.isUnknownScalar = false := by
  cases List.mem_append.1 h with
  | inl h =>
      obtain ⟨m, _, h⟩ := List.mem_flatMap.1 h
      cases List.mem_append.1 h with
      | inl h =>
          split at h
          · cases List.mem_singleton.1 h
            rfl
          · cases h
      | inr h =>
          obtain ⟨f, _, rfl⟩ := List.mem_map.1 h
          rfl
  | inr h =>
      obtain ⟨e, _, rfl⟩ := List.mem_map.1 h
      rfl

end Remark

namespace Zod

open Datamodel (plainField)

/-! ## What is accepted -/

/-- What the generation of schemas asks of a configuration and a data model. -/
structure Accepted (c : Config) (d : Datamodel) : Prop where
  /-- No names collide. -/
  noCollision : ∀ rendered raws, Naming.build c d ≠ .error (.collision rendered raws)
  /-- Every enum that a field of a model refers to is declared. -/
  enums : ∀ m ∈ d.models, ∀ f ∈ m.fields, f.kind = .enum → f.type ∈ d.names .enums
  /-- Every scalar of a model is registered, where nothing else is admitted. -/
  scalars : c.flag .strictValidationScalars = true →
    ∀ m ∈ d.models, ∀ f ∈ m.fields, ¬ f.Unregistered

section Files

variable {c : Config} {n : Naming} {d : Datamodel}

theorem exists_tagSchema_iff {f : Field} (hk : f.kind = .scalar) :
    (∃ s, tagSchema c f = .ok s) ↔
      (c.flag .strictValidationScalars = true → ¬ f.Unregistered) := by
  rw [tagSchema, Field.Unregistered, ← Scalar.ofTag?_eq_none]
  cases ht : Scalar.ofTag? f.type with
  | some s => simp
  | none => cases c.flag .strictValidationScalars <;> simp [hk, mismatched]

/-- A field has an entry, or needs none, exactly when it refers to an enum that is declared, or is a
scalar that is admitted. -/
theorem exists_entry_iff (renders : n.Renders c d) (named : d.Named) {f : Field} :
    (∃ o, entry c n f = .ok o) ↔
      (f.kind = .enum → f.type ∈ d.names .enums) ∧
        (c.flag .strictValidationScalars = true → ¬ f.Unregistered) := by
  have registered (hk : f.kind ≠ .scalar) : ¬ f.Unregistered := fun h => hk h.1
  rw [entry]
  cases hk : f.kind with
  | object =>
      exact iff_of_true ⟨none, rfl⟩ ⟨nofun, fun _ => registered (by rw [hk]; exact nofun)⟩
  | unsupported =>
      refine iff_of_true ?_ ⟨nofun, fun _ => registered (by rw [hk]; exact nofun)⟩
      exact ⟨_, map_eq_ok.2 ⟨anything, by rw [baseSchema, hk], rfl⟩⟩
  | enum =>
      have notScalar : ¬ f.Unregistered := registered (by rw [hk]; exact nofun)
      constructor
      · rintro ⟨o, h⟩
        obtain ⟨name, hn, _⟩ := map_eq_ok.1 h
        exact ⟨fun _ => ((renders.enumName_eq_ok named).1 hn).1, fun _ => notScalar⟩
      · rintro ⟨declared, _⟩
        exact ⟨_, map_eq_ok.2 ⟨_, (renders.enumName_eq_ok named).2 ⟨declared rfl, rfl⟩, rfl⟩⟩
  | scalar =>
      rw [← exists_tagSchema_iff hk]
      simp only [baseSchema, hk]
      constructor
      · rintro ⟨o, h⟩
        obtain ⟨base, hb, _⟩ := map_eq_ok.1 h
        exact ⟨nofun, base, hb⟩
      · rintro ⟨_, base, hb⟩
        exact ⟨_, map_eq_ok.2 ⟨base, hb, rfl⟩⟩

theorem exists_enumSchema (renders : n.Renders c d) (named : d.Named) {e : Enumeration}
    (he : e ∈ d.enums) : enumSchema n e = .ok ⟨c.rendered .enums e.name, e.values⟩ :=
  enumSchema_eq_ok.2
    ⟨(renders.enumName_eq_ok named).2 ⟨List.mem_map_of_mem he, rfl⟩, rfl⟩

/-- A model has a schema exactly when each of its fields has an entry or needs none. -/
theorem exists_objectSchema_iff (renders : n.Renders c d) (named : d.Named) {m : Model}
    (hm : m ∈ d.models) :
    (∃ s, objectSchema c n m = .ok s) ↔ ∀ f ∈ m.fields, ∃ o, entry c n f = .ok o := by
  rw [← exists_mapM_eq_ok]
  constructor
  · rintro ⟨s, h⟩
    obtain ⟨_, found, hf, _⟩ := objectSchema_eq_ok.1 h
    exact ⟨found, hf⟩
  · rintro ⟨found, hf⟩
    obtain ⟨name, hn⟩ :=
      TypeScript.exists_declarationName renders named (List.mem_append_left d.types hm)
    exact ⟨⟨name, found.filterMap id⟩, objectSchema_eq_ok.2 ⟨hn, found, hf, rfl⟩⟩

theorem exists_file_iff (renders : n.Renders c d) (named : d.Named) :
    (∃ code, file c n d = .ok code) ↔ ∀ m ∈ d.models, ∃ s, objectSchema c n m = .ok s := by
  rw [← exists_mapM_eq_ok]
  constructor
  · rintro ⟨code, h⟩
    obtain ⟨_, models, _, hm, _⟩ := file_eq_ok.1 h
    exact ⟨models, hm⟩
  · rintro ⟨models, hm⟩
    obtain ⟨enums, he⟩ := exists_mapM_eq_ok.2 fun e (he : e ∈ d.enums) =>
      ⟨_, exists_enumSchema renders named he⟩
    exact ⟨_, file_eq_ok.2 ⟨enums, models, he, hm, rfl⟩⟩

/-! ## Enums before models -/

/-- What stands before the place where an item of the second part stands holds all of the first
part. -/
theorem mem_before {α : Type} {first second before after : List α} {a : α} (ha : a ∉ first)
    (h : first ++ second = before ++ a :: after) : ∀ b ∈ first, b ∈ before := by
  intro b hb
  obtain ⟨more, rfl, _⟩ | ⟨more, rfl, rest⟩ := List.append_eq_append_iff.1 h
  · exact List.mem_append_left _ hb
  · -- The first part goes on beyond the place, so it holds the item unless it ends there.
    cases more with
    | nil => rwa [List.append_nil] at hb
    | cons x more =>
        obtain ⟨rfl, _⟩ := List.cons.inj rest
        exact absurd (List.mem_append_right before List.mem_cons_self) ha

/-- Every enum that a field of a model refers to is declared by a statement before the schema of the
model, and the entry of the field has the name under which it is. -/
def DeclaredFirst (c : Config) (n : Naming) (d : Datamodel) (all : List Statement) : Prop :=
  ∀ before s after, all = before ++ .object s :: after →
    ∀ m ∈ d.models, objectSchema c n m = .ok s → ∀ f ∈ m.fields, f.kind = .enum →
      (⟨f.name, modified c f (c.rendered .enums f.type)⟩ : Entry) ∈ s.entries ∧
        ∃ st ∈ before, st.enumName? = some (c.rendered .enums f.type)

/-- The entry of a field of an enum has the rendered name of the enum. -/
theorem entry_of_enum (renders : n.Renders c d) (named : d.Named) {m : Model} {s : ObjectSchema}
    (h : objectSchema c n m = .ok s) {f : Field} (hf : f ∈ m.fields) (hk : f.kind = .enum) :
    f.type ∈ d.names .enums ∧
      (⟨f.name, modified c f (c.rendered .enums f.type)⟩ : Entry) ∈ s.entries := by
  obtain ⟨_, found, hfound, entries⟩ := objectSchema_eq_ok.1 h
  obtain ⟨o, ho, made⟩ := mapM_ok_mem hfound f hf
  rw [entry, hk] at made
  obtain ⟨name, hn, rfl⟩ := map_eq_ok.1 made
  obtain ⟨declared, rfl⟩ := (renders.enumName_eq_ok named).1 hn
  rw [entries]
  exact ⟨declared, List.mem_filterMap.2 ⟨_, ho, rfl⟩⟩

theorem declaredFirst (named : d.Named) {g : Generated} {enums : List EnumSchema}
    {models : List ObjectSchema} (writes : Writes c d n enums models g) :
    DeclaredFirst c n d (statements enums models) := by
  have renders := Naming.build_renders named writes.naming
  intro before s after split m _ h f hf hk
  obtain ⟨declared, entries⟩ := entry_of_enum renders named h hf hk
  refine ⟨entries, ?_⟩
  obtain ⟨e, he, same⟩ := List.mem_map.1 declared
  obtain ⟨schema, mem, made⟩ := mapM_ok_mem writes.ofEnums e he
  rw [exists_enumSchema renders named he, same] at made
  have notObject : Statement.object s ∉ [.head] ++ enums.map .enum := by simp
  refine ⟨.enum schema, mem_before notObject split _ ?_, ?_⟩
  · exact List.mem_append_right _ (List.mem_map_of_mem mem)
  · rw [← Except.ok.inj made]
    rfl

end Files

/-! ## Generations -/

section Generations

variable {directory : List String} {c : Config} {d : Datamodel}

theorem generate_iff_accepted (named : d.Named) :
    (∃ g, generate .zod directory c d = .ok g) ↔ Accepted c d := by
  have files {n : Naming} (renders : n.Renders c d) : (∃ code, file c n d = .ok code) ↔
      (∀ m ∈ d.models, ∀ f ∈ m.fields, f.kind = .enum → f.type ∈ d.names .enums) ∧
        (c.flag .strictValidationScalars = true →
          ∀ m ∈ d.models, ∀ f ∈ m.fields, ¬ f.Unregistered) := by
    rw [exists_file_iff renders named]
    have each (m : Model) (hm : m ∈ d.models) :=
      (exists_objectSchema_iff renders named hm).trans
        (forall₂_congr fun f _ => exists_entry_iff renders named)
    constructor
    · intro h
      exact ⟨fun m hm f hf => ((each m hm).1 (h m hm) f hf).1,
        fun strict m hm f hf => ((each m hm).1 (h m hm) f hf).2 strict⟩
    · rintro ⟨enums, scalars⟩ m hm
      exact (each m hm).2 fun f hf => ⟨enums m hm f hf, fun strict => scalars strict m hm f hf⟩
  constructor
  · rintro ⟨g, h⟩
    obtain ⟨n, code, hn, hc, _⟩ := generate_eq_ok.1 h
    obtain ⟨enums, scalars⟩ := (files (Naming.build_renders named hn)).1 ⟨code, hc⟩
    refine ⟨fun rendered raws collision => ?_, enums, scalars⟩
    rw [hn] at collision
    cases collision
  · rintro ⟨noCollision, enums, scalars⟩
    cases hb : Naming.build c d with
    | error f =>
        obtain ⟨r, raws, rfl⟩ := Naming.build_error named hb
        exact absurd hb (noCollision r raws)
    | ok n =>
        obtain ⟨code, hc⟩ := (files (Naming.build_renders named hb)).2 ⟨enums, scalars⟩
        exact ⟨_, generate_eq_ok.2 ⟨n, code, hb, hc, rfl⟩⟩

/-- What has declarations is accepted. -/
theorem accepted_of_typeScript (named : d.Named) {g : Generated}
    (h : generate .typeScript directory c d = .ok g) : Accepted c d := by
  obtain ⟨n, ds, writes⟩ := TypeScript.exists_writes h
  have renders := Naming.build_renders named writes.naming
  have hasType (m : Model) (hm : m ∈ d.models) (f : Field) (hf : f ∈ m.fields) :
      ∃ t, d.HasType c m f t := by
    obtain ⟨t, ht⟩ := TypeScript.fieldType_of_declarations writes.declarations m
      (List.mem_append_left _ hm) f hf
    exact ⟨t, (TypeScript.fieldType_eq_ok renders named).1 ht⟩
  refine ⟨fun rendered raws collision => ?_, fun m hm f hf hk => ?_, fun _ m hm f hf => ?_⟩
  · rw [writes.naming] at collision
    cases collision
  · obtain ⟨t, ht⟩ := hasType m hm f hf
    cases ht with
    | enum _ declared => exact declared
    | key other | plain other | composite other | model other | any other =>
        cases hk.symm.trans other
  · rintro ⟨hk, unregistered⟩
    have registered {e : String} (he : TypeScript.scalarType c f.type = .ok e) : False := by
      obtain ⟨v, hv, _⟩ := bind_eq_ok.1 he
      rw [TypeScript.tagExpression, Scalar.ofTag?_eq_none.2 unregistered] at hv
      exact mismatched_ne_ok hv
    obtain ⟨t, ht⟩ := hasType m hm f hf
    cases ht with
    | key _ he | plain _ he => exact registered he
    | composite other | model other | enum other | any other => cases hk.symm.trans other

/-- The remarks on a generation are others, and then one on each scalar that is not registered. -/
theorem warnings_eq (named : d.Named) {g : Generated} (h : generate .zod directory c d = .ok g) :
    ∃ others : List Remark, (∀ r ∈ others, r.isUnknownScalar = false) ∧
      g.warnings = (others ++ d.unregistered.map Remark.takesAnything).map Remark.message := by
  obtain ⟨n, code, _, _, made⟩ := generate_eq_ok.1 h
  refine ⟨Remark.general d, fun r hr => Remark.isUnknownScalar_of_mem_general hr, ?_⟩
  rw [← made]
  show (Remark.general d ++ Remark.special .zod c d).map Remark.message = _
  cases strict : c.flag .strictValidationScalars with
  | false => rw [Remark.special_zod strict]
  | true =>
      -- Nothing that is not registered has been let through.
      have all := ((generate_iff_accepted named).1 ⟨g, h⟩).scalars strict
      have none : d.unregistered = [] := by
        refine List.flatMap_eq_nil_iff.2 fun m hm => ?_
        rw [List.map_eq_nil_iff, List.filter_eq_nil_iff]
        exact fun f hf => by simpa using all m hm f hf
      rw [none, Remark.special, strict]
      rfl

/-- Schemas are generated exactly for what is accepted, and so for whatever has declarations. Every
enum is declared before it is referred to, and there is a remark on exactly those scalars of models
that are not registered, in order. -/
theorem schemas_generated_iff (named : d.Named) :
    ((∃ g, generate .zod directory c d = .ok g) ↔ Accepted c d) ∧
      (∀ g, generate .typeScript directory c d = .ok g →
        ∃ g', generate .zod directory c d = .ok g') ∧
      ∀ g, generate .zod directory c d = .ok g →
        (∃ n enums models, Writes c d n enums models g ∧
          DeclaredFirst c n d (statements enums models)) ∧
        ∃ others : List Remark, (∀ r ∈ others, r.isUnknownScalar = false) ∧
          g.warnings = (others ++ d.unregistered.map Remark.takesAnything).map Remark.message := by
  refine ⟨generate_iff_accepted named, fun g h => ?_, fun g h => ⟨?_, warnings_eq named h⟩⟩
  · exact (generate_iff_accepted named).2 (accepted_of_typeScript named h)
  · obtain ⟨n, enums, models, writes⟩ := exists_writes h
    exact ⟨n, enums, models, writes, declaredFirst named writes⟩

/-- Areas of a colour and with a shape, whose tag is not registered. -/
def atlas : Datamodel where
  models :=
    [{ name := .str "Area", dbName := .null, documentation := .null
       fields := [plainField "colour" .enum "Colour", plainField "shape" .scalar "Geometry"] }]
  enums := [{ name := .str "Colour", values := [.str "RED"], documentation := .null }]
  types := []

theorem atlas_named : atlas.Named := by
  intro p v hv
  have named : ∀ p, ∀ v ∈ atlas.names p, ∃ s, s ≠ "" ∧ v = .str s := by
    intro p
    cases p <;> simp [atlas, Datamodel.names]
  exact named p v hv

/-- A configuration under which schemas are of registered scalars only. -/
def registeredOnly : Config := Config.default.set .strictValidationScalars (.bool true)

/-- The schemas of areas take any shape, with a remark. Where only what is registered is admitted,
there are neither schemas nor declarations of areas. -/
theorem atlas_schemas_generated :
    atlas.Named ∧ ¬ Accepted registeredOnly atlas ∧ Accepted Config.default atlas ∧
      (∀ g, generate .typeScript ["src"] registeredOnly atlas ≠ .ok g) ∧
      ∃ g n enums models, generate .zod ["src"] Config.default atlas = .ok g ∧
        g.warnings = ["Unknown scalar type Geometry in Area.shape validates as z.any()"] ∧
        Writes Config.default atlas n enums models g ∧
        DeclaredFirst Config.default n atlas (statements enums models) := by
  have made : ∃ g, generate .zod ["src"] Config.default atlas = .ok g ∧
      g.warnings = ["Unknown scalar type Geometry in Area.shape validates as z.any()"] :=
    ⟨_, rfl, rfl⟩
  have refused : ∀ g, generate .zod ["src"] registeredOnly atlas ≠ .ok g := by
    intro g h
    have isOk : (generate .zod ["src"] registeredOnly atlas).isOk = false := rfl
    rw [h] at isOk
    cases isOk
  obtain ⟨g, hg, warnings⟩ := made
  obtain ⟨iff, _, written⟩ := @schemas_generated_iff ["src"] Config.default atlas atlas_named
  obtain ⟨iffStrict, ofDeclarations, _⟩ :=
    @schemas_generated_iff ["src"] registeredOnly atlas atlas_named
  obtain ⟨⟨n, enums, models, writes, first⟩, _⟩ := written g hg
  refine ⟨atlas_named, fun accepted => ?_, iff.1 ⟨g, hg⟩, fun g h => ?_, g, n, enums, models, hg,
    warnings, writes, first⟩
  · obtain ⟨g, h⟩ := iffStrict.2 accepted
    exact refused g h
  · obtain ⟨g', h'⟩ := ofDeclarations g h
    exact refused g' h'

end Generations

end Zod

end Typewright
