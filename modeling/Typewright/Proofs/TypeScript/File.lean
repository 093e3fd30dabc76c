import Typewright.Proofs.Outcome
import Typewright.TypeScript.File

/-!
# What a TypeScript file is made of

The definitions that make a file are taken apart here, from the outside in: which steps a file is
made of, its declarations, the declaration of a model, and its properties. Each law is an
equivalence. It gives the steps of what succeeds, and what is enough to succeed.

`usedHelpers_eq` says which helper types a successful generation meets, without speaking of the
order in which it goes.
-/

namespace Typewright.TypeScript

/-! ## Files -/

/-- A file is made of its declarations between code from the configuration. -/
theorem file_eq_ok {c : Config} {n : Naming} {d : Datamodel} {code : String} :
    file c n d = .ok code ↔
      ∃ ds before after, declarations c n d = .ok ds ∧ codeSection c .prefixCode = .ok before ∧
        codeSection c .suffixCode = .ok after ∧
        code = fileText (headerSection c ++ before ++ helperSection (usedHelpers c n d) ++
          ds.texts ++ after) := by
  constructor
  · intro h
    obtain ⟨parts, hp, h⟩ := bind_eq_ok.1 h
    obtain ⟨ds, hd, hp⟩ := bind_eq_ok.1 hp
    obtain ⟨before, hb, hp⟩ := bind_eq_ok.1 hp
    obtain ⟨after, ha, hp⟩ := bind_eq_ok.1 hp
    rw [pure_eq_ok] at h hp
    exact ⟨ds, before, after, hd, hb, ha, by rw [← h, ← hp]⟩
  · rintro ⟨ds, before, after, hd, hb, ha, rfl⟩
    rw [file, sections, hd, ok_bind, hb, ok_bind, ha]
    rfl

theorem declarations_eq_ok {c : Config} {n : Naming} {d : Datamodel} {ds : Declarations} :
    declarations c n d = .ok ds ↔
      d.enums.mapM (enumDeclaration c n) = .ok ds.enums ∧
        d.models.mapM (modelDeclaration c n) = .ok ds.models ∧
        d.types.mapM (modelDeclaration c n) = .ok ds.types := by
  constructor
  · intro h
    obtain ⟨enums, he, h⟩ := bind_eq_ok.1 h
    obtain ⟨models, hm, h⟩ := bind_eq_ok.1 h
    obtain ⟨types, ht, h⟩ := bind_eq_ok.1 h
    cases pure_eq_ok.1 h
    exact ⟨he, hm, ht⟩
  · rintro ⟨he, hm, ht⟩
    rw [declarations, he, ok_bind, hm, ok_bind, ht]
    rfl

/-- Models and composite types are declared one after the other. -/
theorem mapM_models_types {c : Config} {n : Naming} {d : Datamodel} {ds : Declarations}
    (h : declarations c n d = .ok ds) :
    (d.models ++ d.types).mapM (modelDeclaration c n) = .ok (ds.models ++ ds.types) := by
  obtain ⟨_, hm, ht⟩ := declarations_eq_ok.1 h
  rw [List.mapM_append, hm, ht]
  rfl

/-- Declarations are made exactly if those of enums are, and those of models and composite types. -/
theorem exists_declarations_eq_ok {c : Config} {n : Naming} {d : Datamodel} :
    (∃ ds, declarations c n d = .ok ds) ↔
      (∃ enums, d.enums.mapM (enumDeclaration c n) = .ok enums) ∧
        ∃ both, (d.models ++ d.types).mapM (modelDeclaration c n) = .ok both := by
  constructor
  · rintro ⟨ds, h⟩
    obtain ⟨he, _, _⟩ := declarations_eq_ok.1 h
    exact ⟨⟨_, he⟩, _, mapM_models_types h⟩
  · rintro ⟨⟨enums, he⟩, both, h⟩
    rw [List.mapM_append] at h
    obtain ⟨models, hm, h⟩ := bind_eq_ok.1 h
    obtain ⟨types, ht, _⟩ := bind_eq_ok.1 h
    exact ⟨⟨enums, models, types⟩, declarations_eq_ok.2 ⟨he, hm, ht⟩⟩

/-- Every model and composite type has a declaration in a file that is made. -/
theorem modelDeclaration_of_declarations {c : Config} {n : Naming} {d : Datamodel}
    {ds : Declarations} (h : declarations c n d = .ok ds) :
    ∀ m ∈ d.models ++ d.types, ∃ decl, modelDeclaration c n m = .ok decl :=
  exists_mapM_eq_ok.1 ⟨_, mapM_models_types h⟩

/-! ## Declarations -/

theorem modelShape_eq_ok {c : Config} {s : ModelShape} :
    modelShape c = .ok s ↔ c.value .modelType = .str s.word := by
  rw [modelShape, ← ModelShape.ofValue?_eq_some]
  cases ModelShape.ofValue? (c.value .modelType) with
  | some shape => simp
  | none => simp

theorem enumShape_eq_ok {c : Config} {s : EnumShape} :
    enumShape c = .ok s ↔ c.value .enumType = .str s.word := by
  rw [enumShape, ← EnumShape.ofValue?_eq_some]
  cases EnumShape.ofValue? (c.value .enumType) with
  | some shape => simp
  | none => simp

theorem modelDeclaration_eq_ok {c : Config} {n : Naming} {m : Model} {decl : ModelDeclaration} :
    modelDeclaration c n m = .ok decl ↔
      modelShape c = .ok decl.shape ∧ properties c n m = .ok decl.properties ∧
        n.declarationName m.name = .ok decl.name := by
  constructor
  · intro h
    obtain ⟨shape, hs, h⟩ := bind_eq_ok.1 h
    obtain ⟨ps, hp, h⟩ := bind_eq_ok.1 h
    obtain ⟨name, hn, h⟩ := bind_eq_ok.1 h
    cases pure_eq_ok.1 h
    exact ⟨hs, hp, hn⟩
  · rintro ⟨hs, hp, hn⟩
    rw [modelDeclaration, hs, ok_bind, hp, ok_bind, hn]
    rfl

theorem enumDeclaration_eq_ok {c : Config} {n : Naming} {e : Enumeration}
    {decl : EnumDeclaration} :
    enumDeclaration c n e = .ok decl ↔
      enumShape c = .ok decl.shape ∧ n.enums.get e.name = .ok (some decl.name) ∧
        decl.values = e.values := by
  constructor
  · intro h
    obtain ⟨shape, hs, h⟩ := bind_eq_ok.1 h
    obtain ⟨name, hn, h⟩ := bind_eq_ok.1 h
    cases name with
    | none => exact absurd h mismatched_ne_ok
    | some name =>
        cases pure_eq_ok.1 h
        exact ⟨hs, ofMisuse_eq_ok.1 hn, rfl⟩
  · rintro ⟨hs, hn, hv⟩
    rw [enumDeclaration, hs, ok_bind, ofMisuse_eq_ok.2 hn, ok_bind, ← hv]
    rfl

/-- The properties of a model are those of its fields. -/
theorem properties_eq_ok {c : Config} {n : Naming} {m : Model} {ps : List Property} :
    properties c n m = .ok ps ↔
      ∃ found, m.fields.mapM (property c n m) = .ok found ∧ ps = found.filterMap id := by
  constructor
  · intro h
    obtain ⟨found, hf, h⟩ := bind_eq_ok.1 h
    exact ⟨found, hf, (pure_eq_ok.1 h).symm⟩
  · rintro ⟨found, hf, rfl⟩
    rw [properties, hf]
    rfl

/-- A field has a property exactly when it has a type, even if the property is left out. -/
theorem property_eq_ok {c : Config} {n : Naming} {m : Model} {f : Field} {o : Option Property} :
    property c n m f = .ok o ↔ ∃ t, fieldType c n m f = .ok t ∧ declare? c f t = o :=
  map_eq_ok

/-- The properties of a model are those of its fields with their types, in order. -/
theorem properties_eq_ok_typed {c : Config} {n : Naming} {m : Model} {ps : List Property} :
    properties c n m = .ok ps ↔
      ∃ typed : List (Field × FieldType), typed.map (·.1) = m.fields ∧
        (∀ p ∈ typed, fieldType c n m p.1 = .ok p.2) ∧
        ps = typed.filterMap fun p => declare? c p.1 p.2 := by
  rw [properties_eq_ok]
  constructor
  · rintro ⟨found, hf, rfl⟩
    rw [mapM_eq_ok] at hf
    generalize m.fields = fields at hf
    induction hf with
    | nil => exact ⟨[], rfl, nofun, rfl⟩
    | @cons f o _ _ hfo _ ih =>
        obtain ⟨t, ht, rfl⟩ := property_eq_ok.1 hfo
        obtain ⟨typed, hfields, htypes, same⟩ := ih
        refine ⟨(f, t) :: typed, congrArg (f :: ·) hfields, List.forall_mem_cons.2 ⟨ht, htypes⟩, ?_⟩
        rw [List.filterMap_cons, List.filterMap_cons, same]
        rfl
  · rintro ⟨typed, hfields, htypes, rfl⟩
    refine ⟨typed.map fun p => declare? c p.1 p.2, ?_, by rw [List.filterMap_map]; rfl⟩
    rw [mapM_eq_ok, ← hfields, List.forall₂_map_left_iff, List.forall₂_map_right_iff,
      List.forall₂_same]
    exact fun p hp => property_eq_ok.2 ⟨p.2, htypes p hp, rfl⟩

/-- The types of all fields of a model whose properties are made. -/
theorem fieldType_of_properties {c : Config} {n : Naming} {m : Model} {ps : List Property}
    (h : properties c n m = .ok ps) : ∀ f ∈ m.fields, ∃ t, fieldType c n m f = .ok t := by
  intro f hf
  obtain ⟨found, hm, _⟩ := properties_eq_ok.1 h
  obtain ⟨o, _, ho⟩ := mapM_ok_mem hm f hf
  obtain ⟨t, ht, _⟩ := property_eq_ok.1 ho
  exact ⟨t, ht⟩

/-- The types of all fields of a file that is made. -/
theorem fieldType_of_declarations {c : Config} {n : Naming} {d : Datamodel} {ds : Declarations}
    (h : declarations c n d = .ok ds) :
    ∀ m ∈ d.models ++ d.types, ∀ f ∈ m.fields, ∃ t, fieldType c n m f = .ok t := by
  intro m hm
  obtain ⟨_, hdecl⟩ := modelDeclaration_of_declarations h m hm
  obtain ⟨_, hp, _⟩ := modelDeclaration_eq_ok.1 hdecl
  exact fieldType_of_properties hp

/-! ## Types of fields -/

/-- The type of an object is that of what its name refers to. -/
theorem objectFieldType_eq_ok {n : Naming} {f : Field} {t : FieldType} :
    objectFieldType n f = .ok t ↔
      (∃ name, n.resolve f.type = .ok (some (.composite name)) ∧ t = .composite name) ∨
        ∃ name, n.resolve f.type = .ok (some (.model name)) ∧ t = .model name := by
  constructor
  · intro h
    obtain ⟨o, ho, h⟩ := bind_eq_ok.1 h
    match o with
    | none => exact absurd h mismatched_ne_ok
    | some (.composite name) => exact Or.inl ⟨name, ofMisuse_eq_ok.1 ho, (pure_eq_ok.1 h).symm⟩
    | some (.model name) => exact Or.inr ⟨name, ofMisuse_eq_ok.1 ho, (pure_eq_ok.1 h).symm⟩
  · rintro (⟨name, hr, rfl⟩ | ⟨name, hr, rfl⟩)
    · exact bind_eq_ok.2 ⟨_, ofMisuse_eq_ok.2 hr, rfl⟩
    · exact bind_eq_ok.2 ⟨_, ofMisuse_eq_ok.2 hr, rfl⟩

/-- The type of the first key of a relation is the composite type that the relation refers to, or
that of the first field it names in the model it refers to. -/
theorem keyType_eq_ok {n : Naming} {m : Model} {relation : Field} {t : FieldType} :
    keyType n m relation = .ok t ↔
      (∃ name, n.resolve relation.type = .ok (some (.composite name)) ∧ t = .composite name) ∨
        ∃ name field rest, n.resolve relation.type = .ok (some (.model name)) ∧
          relation.toFields = field :: rest ∧ t = .key name field := by
  constructor
  · intro h
    obtain ⟨o, ho, h⟩ := bind_eq_ok.1 h
    match o with
    | none => exact absurd h mismatched_ne_ok
    | some (.composite name) => exact Or.inl ⟨name, ofMisuse_eq_ok.1 ho, (pure_eq_ok.1 h).symm⟩
    | some (.model name) =>
        cases hk : relation.toFields with
        | nil =>
            simp only [hk] at h
            exact absurd h mismatched_ne_ok
        | cons field rest =>
            simp only [hk] at h
            exact Or.inr ⟨name, field, rest, ofMisuse_eq_ok.1 ho, rfl, (pure_eq_ok.1 h).symm⟩
  · rintro (⟨name, hr, rfl⟩ | ⟨name, field, rest, hr, hk, rfl⟩)
    · exact bind_eq_ok.2 ⟨_, ofMisuse_eq_ok.2 hr, rfl⟩
    · rw [keyType, ofMisuse_eq_ok.2 hr, ok_bind]
      simp only [hk]
      rfl

/-- What a plain scalar is: what its documentation says, or what represents it. -/
theorem plainType_cases {c : Config} {f : Field} {expression : String} {t : FieldType}
    (h : plainType c f expression = .ok t) : (∃ e, t = .annotated e) ∨ t = .scalar expression := by
  obtain ⟨present, _, h⟩ := bind_eq_ok.1 h
  cases present with
  | true =>
      obtain ⟨doc, _, h⟩ := bind_eq_ok.1 h
      exact Or.inl ⟨_, (pure_eq_ok.1 h).symm⟩
  | false => exact Or.inr (pure_eq_ok.1 h).symm

/-- Only objects are relations. -/
theorem isRelation_of_kind {c : Config} {n : Naming} {m : Model} {f : Field} {t : FieldType}
    (hk : f.kind ≠ .object) (h : fieldType c n m f = .ok t) : t.isRelation = false := by
  rw [fieldType] at h
  cases kind : f.kind with
  | object => exact absurd kind hk
  | scalar =>
      rw [kind] at h
      obtain ⟨e, _, h⟩ := bind_eq_ok.1 h
      cases hr : m.relationFor? f.name with
      | some relation =>
          rw [hr] at h
          obtain ⟨_, _, rfl⟩ | ⟨_, _, _, _, _, rfl⟩ := keyType_eq_ok.1 h
          · rfl
          · rfl
      | none =>
          rw [hr] at h
          obtain ⟨_, rfl⟩ | rfl := plainType_cases h
          · rfl
          · rfl
  | enum =>
      rw [kind] at h
      obtain ⟨name, _, rfl⟩ := map_eq_ok.1 h
      rfl
  | unsupported =>
      rw [kind] at h
      cases h
      rfl

/-! ## Helper types in use -/

section Reached

variable {α β : Type} {step : α → Outcome β} {a : α} {l : List α}

theorem reached_cons_of_ok {b : β} (h : step a = .ok b) :
    reached step (a :: l) = a :: reached step l := by
  rw [reached, h]
  rfl

theorem reached_cons_of_error {e : Fault} (h : step a = .error e) : reached step (a :: l) = [a] := by
  rw [reached, h]
  rfl

theorem reached_of_ok (h : ∀ a ∈ l, ∃ b, step a = .ok b) : reached step l = l := by
  induction l with
  | nil => rfl
  | cons a l ih =>
      obtain ⟨b, hb⟩ := h a List.mem_cons_self
      rw [reached_cons_of_ok hb, ih fun x hx => h x (List.mem_cons_of_mem _ hx)]

/-- Of two lists the second is reached if nothing fails in the first. -/
theorem reached_append (l k : List α) :
    reached step (l ++ k) =
      reached step l ++ if (l.mapM step).isOk then reached step k else [] := by
  induction l with
  | nil => rfl
  | cons a l ih =>
      rw [List.cons_append, List.mapM_cons]
      cases h : step a with
      | error e =>
          rw [reached_cons_of_error h, reached_cons_of_error h]
          rfl
      | ok b =>
          rw [reached_cons_of_ok h, reached_cons_of_ok h, ih, ok_bind, List.cons_append]
          cases l.mapM step with
          | error e => rfl
          | ok bs => rfl

end Reached

theorem modelHelpers_of_ok {c : Config} {n : Naming} {m : Model} {decl : ModelDeclaration}
    (h : modelDeclaration c n m = .ok decl) :
    modelHelpers c n m = m.fields.filterMap (fieldHelper? c) := by
  obtain ⟨hs, hp, _⟩ := modelDeclaration_eq_ok.1 h
  obtain ⟨found, hf, _⟩ := properties_eq_ok.1 hp
  rw [modelHelpers, hs]
  exact congrArg _ (reached_of_ok (exists_mapM_eq_ok.1 ⟨found, hf⟩))

/-- A generation that succeeds meets the helper types of all fields. -/
theorem usedHelpers_eq {c : Config} {n : Naming} {d : Datamodel} {ds : Declarations}
    (h : declarations c n d = .ok ds) :
    usedHelpers c n d =
      (d.models ++ d.types).flatMap fun m => m.fields.filterMap (fieldHelper? c) := by
  obtain ⟨he, _, _⟩ := declarations_eq_ok.1 h
  have all := modelDeclaration_of_declarations h
  rw [usedHelpers, he, reached_of_ok all]
  refine List.flatMap_congr fun m hmem => ?_
  obtain ⟨decl, hdecl⟩ := all m hmem
  exact modelHelpers_of_ok hdecl

end Typewright.TypeScript
