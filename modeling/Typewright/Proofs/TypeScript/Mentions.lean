import Typewright.Proofs.TypeScript.Helpers

/-!
# Which helper types are mentioned

A helper type is declared for a scalar field when its tag is looked up. The field need not be of
that type in the end: the key of a relation has the type of the key it refers to, and the
documentation may give a type. So a file may declare a helper type that none of its properties
mentions, as that of `letters` does (`letters_unmentioned`).

`helper_mentioned_iff` sets the two beside each other: for which fields a helper type is declared,
and for which it is mentioned. Of the scalar fields these are the ones that keep the type of their
tag (`Model.Keeps`).
-/

namespace Typewright

/-! ## Fields that keep the type of their tag -/

/-- A scalar field has the type of its tag: it is no key, and its documentation gives no type. -/
structure Model.Keeps (m : Model) (f : Field) : Prop where
  scalar : f.kind = .scalar
  noKey : m.relationFor? f.name = none
  plain : Annotations.present f.documentation = .ok false

namespace TypeScript

variable {c : Config} {n : Naming} {m : Model} {f : Field}

/-- A plain scalar has the type of its tag exactly if its documentation gives none. -/
theorem plainType_eq_scalar {expression e : String} :
    plainType c f expression = .ok (.scalar e) ↔
      Annotations.present f.documentation = .ok false ∧ expression = e := by
  constructor
  · intro h
    obtain ⟨present, hp, h⟩ := bind_eq_ok.1 h
    cases present with
    | true =>
        obtain ⟨_, _, h⟩ := bind_eq_ok.1 h
        cases pure_eq_ok.1 h
    | false =>
        cases pure_eq_ok.1 h
        exact ⟨ofMisuse_eq_ok.1 hp, rfl⟩
  · rintro ⟨hp, rfl⟩
    exact bind_eq_ok.2 ⟨false, ofMisuse_eq_ok.2 hp, rfl⟩

/-- Just the fields that keep the type of their tag have it as their type. -/
theorem fieldType_eq_scalar {e : String} :
    fieldType c n m f = .ok (.scalar e) ↔ m.Keeps f ∧ scalarType c f.type = .ok e := by
  constructor
  · intro h
    rw [fieldType] at h
    cases hk : f.kind with
    | scalar =>
        rw [hk] at h
        obtain ⟨expression, he, h⟩ := bind_eq_ok.1 h
        cases hr : m.relationFor? f.name with
        | some relation =>
            rw [hr] at h
            obtain ⟨_, _, other⟩ | ⟨_, _, _, _, _, other⟩ := keyType_eq_ok.1 h
            · cases other
            · cases other
        | none =>
            rw [hr] at h
            obtain ⟨hp, rfl⟩ := plainType_eq_scalar.1 h
            exact ⟨⟨hk, hr, hp⟩, he⟩
    | object =>
        rw [hk] at h
        obtain ⟨_, _, other⟩ | ⟨_, _, other⟩ := objectFieldType_eq_ok.1 h
        · cases other
        · cases other
    | enum =>
        rw [hk] at h
        obtain ⟨_, _, other⟩ := map_eq_ok.1 h
        cases other
    | unsupported =>
        rw [hk] at h
        cases h
  · rintro ⟨⟨hk, hr, hp⟩, he⟩
    rw [fieldType, hk]
    refine bind_eq_ok.2 ⟨e, he, ?_⟩
    rw [hr]
    exact plainType_eq_scalar.2 ⟨hp, rfl⟩

/-! ## Types of properties -/

/-- A field has a property, with a certain type. -/
def PropertyOfType (c : Config) (n : Naming) (m : Model) (f : Field) (t : FieldType) : Prop :=
  fieldType c n m f = .ok t ∧ (t.isRelation && c.flag .omitRelations) = false

theorem declare?_eq_some {t : FieldType} {p : Property} :
    declare? c f t = some p ↔
      (t.isRelation && c.flag .omitRelations) = false ∧ declare c f t = p := by
  rw [declare?]
  cases t.isRelation && c.flag .omitRelations with
  | true => simp
  | false => simp

/-- What is true of the type of some property is so of the type of its field. -/
theorem exists_property_iff {decl : ModelDeclaration} (made : modelDeclaration c n m = .ok decl)
    {P : String → Prop} :
    (∃ p ∈ decl.properties, P p.type) ↔
      ∃ f ∈ m.fields, ∃ t, PropertyOfType c n m f t ∧ P t.text := by
  obtain ⟨_, hp, _⟩ := modelDeclaration_eq_ok.1 made
  obtain ⟨typed, fields, types, properties⟩ := properties_eq_ok_typed.1 hp
  rw [properties, ← fields]
  constructor
  · rintro ⟨p, mem, hP⟩
    obtain ⟨⟨f, t⟩, hft, hp⟩ := List.mem_filterMap.1 mem
    obtain ⟨kept, rfl⟩ := declare?_eq_some.1 hp
    exact ⟨f, List.mem_map_of_mem hft, t, ⟨types _ hft, kept⟩, hP⟩
  · rintro ⟨f, hf, t, ⟨ht, kept⟩, hP⟩
    obtain ⟨⟨f, t'⟩, hft, rfl⟩ := List.mem_map.1 hf
    -- A field has one type, so it is the one that stands beside it.
    cases ht.symm.trans (types _ hft)
    exact ⟨_, List.mem_filterMap.2 ⟨_, hft, declare?_eq_some.2 ⟨kept, rfl⟩⟩, hP⟩

/-- What is true of the type of some property of a file is so of the type of some field. -/
theorem exists_property_of_file_iff {d : Datamodel} {ds : Declarations}
    (made : declarations c n d = .ok ds) {P : String → Prop} :
    (∃ decl ∈ ds.models ++ ds.types, ∃ p ∈ decl.properties, P p.type) ↔
      ∃ m ∈ d.models ++ d.types, ∃ f ∈ m.fields, ∃ t, PropertyOfType c n m f t ∧ P t.text := by
  have all := mapM_models_types made
  constructor
  · rintro ⟨decl, mem, hP⟩
    obtain ⟨m, hm, hdecl⟩ := mapM_ok_mem_result all decl mem
    exact ⟨m, hm, (exists_property_iff hdecl).1 hP⟩
  · rintro ⟨m, hm, hP⟩
    obtain ⟨decl, mem, hdecl⟩ := mapM_ok_mem all m hm
    exact ⟨decl, mem, (exists_property_iff hdecl).2 hP⟩

/-! ## Mentions of helper types -/

/-- A field has a property with a type that is no scalar's and mentions a helper type: an object, an
enum, the key of a relation, or a field whose documentation gives the type. -/
def MentionedOtherwise (c : Config) (n : Naming) (m : Model) (f : Field) (h : Helper) : Prop :=
  ∃ t, PropertyOfType c n m f t ∧ (∀ e, t ≠ .scalar e) ∧ h.MentionedBy t.text

/-- A property mentions a helper type if its field is a scalar that keeps a type which does, or if
the field does otherwise. -/
theorem exists_mentions_iff {h : Helper} :
    (∃ t, PropertyOfType c n m f t ∧ h.MentionedBy t.text) ↔
      (m.Keeps f ∧ ∃ e, scalarType c f.type = .ok e ∧ h.MentionedBy e) ∨
        MentionedOtherwise c n m f h := by
  constructor
  · rintro ⟨t, property, mentioned⟩
    by_cases scalar : ∃ e, t = .scalar e
    · obtain ⟨e, rfl⟩ := scalar
      obtain ⟨keeps, he⟩ := fieldType_eq_scalar.1 property.1
      exact .inl ⟨keeps, e, he, mentioned⟩
    · exact .inr ⟨t, property, fun e he => scalar ⟨e, he⟩, mentioned⟩
  · rintro (⟨keeps, e, he, mentioned⟩ | ⟨t, property, _, mentioned⟩)
    · exact ⟨.scalar e, ⟨fieldType_eq_scalar.2 ⟨keeps, he⟩, rfl⟩, mentioned⟩
    · exact ⟨t, property, mentioned⟩

/-- A helper type is declared for the tag of a scalar field. It is mentioned for a scalar field that
keeps the type of its tag, or for a field that mentions it otherwise. If it is declared for a field
that keeps the type of its tag, it is the type of a property. -/
theorem helper_mentioned_iff {directory : List String} {d : Datamodel} {g : Generated}
    (h : generate .typeScript directory c d = .ok g) :
    ∃ n ds, Writes c d n ds g ∧ ∀ helper : Helper,
      (helper.DeclaredIn (helperSection (usedHelpers c n d)) ↔ helper.UsedBy c d) ∧
      ((∃ decl ∈ ds.models ++ ds.types, ∃ p ∈ decl.properties, helper.MentionedBy p.type) ↔
        ∃ m ∈ d.models ++ d.types, ∃ f ∈ m.fields,
          (m.Keeps f ∧ ∃ e, scalarType c f.type = .ok e ∧ helper.MentionedBy e) ∨
            MentionedOtherwise c n m f helper) ∧
      ∀ m ∈ d.models ++ d.types, ∀ f ∈ m.fields,
        m.Keeps f → scalarType c f.type = .ok helper.name →
          ∃ decl ∈ ds.models ++ ds.types, ∃ p ∈ decl.properties, p.type = helper.name := by
  obtain ⟨n, ds, writes⟩ := exists_writes h
  refine ⟨n, ds, writes, fun helper => ⟨?_, ?_, fun m hm f hf keeps type => ?_⟩⟩
  · rw [declaredIn_helperSection, mem_usedHelpers writes.declarations]
  · rw [exists_property_of_file_iff writes.declarations]
    simp only [exists_mentions_iff]
  · refine (exists_property_of_file_iff writes.declarations (P := (· = helper.name))).2 ?_
    exact ⟨m, hm, f, hf, _, ⟨fieldType_eq_scalar.2 ⟨keeps, type⟩, rfl⟩, rfl⟩

/-- Letters, whose body is a JSON value with some documentation. -/
def letters (documentation : Value) : Datamodel where
  models :=
    [{ name := .str "Letter", dbName := .null, documentation := .null
       fields := [{ Datamodel.plainField "body" .scalar "Json" with
         documentation := documentation }] }]
  enums := []
  types := []

theorem scalarType_json (c : Config) : scalarType c (.str "Json") = .ok Helper.jsonValue.name := rfl

/-- Whatever is said of the bodies of letters, their tag is that of JSON values. -/
theorem jsonValue_usedBy_letters (documentation : Value) :
    Helper.jsonValue.UsedBy Config.default (letters documentation) :=
  ⟨_, List.mem_singleton_self _, _, List.mem_singleton_self _, rfl, scalarType_json _⟩

/-- The bodies of letters are of the helper type that is declared if nothing is said of them. -/
theorem letters_mentioned :
    ∃ g n ds, generate .typeScript ["src"] Config.default (letters .null) = .ok g ∧
      Writes Config.default (letters .null) n ds g ∧
      Helper.jsonValue.DeclaredIn (helperSection (usedHelpers Config.default n (letters .null))) ∧
      ∃ decl ∈ ds.models ++ ds.types, ∃ p ∈ decl.properties, p.type = Helper.jsonValue.name := by
  have made : ∃ g, generate .typeScript ["src"] Config.default (letters .null) = .ok g := ⟨_, rfl⟩
  obtain ⟨g, hg⟩ := made
  obtain ⟨n, ds, writes, each⟩ := helper_mentioned_iff hg
  obtain ⟨declared, _, typed⟩ := each .jsonValue
  refine ⟨g, n, ds, hg, writes, declared.2 (jsonValue_usedBy_letters _), ?_⟩
  exact typed _ (List.mem_singleton_self _) _ (List.mem_singleton_self _) ⟨rfl, rfl, rfl⟩
    (scalarType_json _)

/-- The file of letters whose bodies are of a type that their documentation gives. -/
def letterCode : String :=
  "// This file was auto-generated by schema-typegen\n\n" ++ Helper.jsonValue.declaration ++
    "\n\nexport interface Letter \x7b\n  /** [Body] */\n  body: (Body);\n\x7d\n"

/-- The file of letters declares a helper type that it does not mention if another type is given for
their bodies. -/
theorem letters_unmentioned :
    ∃ g n ds, generate .typeScript ["src"] Config.default (letters (.str "[Body]")) = .ok g ∧
      g.code = letterCode ∧ Writes Config.default (letters (.str "[Body]")) n ds g ∧
      Helper.jsonValue.DeclaredIn
        (helperSection (usedHelpers Config.default n (letters (.str "[Body]")))) ∧
      ¬ ∃ decl ∈ ds.models ++ ds.types, ∃ p ∈ decl.properties,
        Helper.jsonValue.MentionedBy p.type := by
  have made : ∃ g, generate .typeScript ["src"] Config.default (letters (.str "[Body]")) = .ok g ∧
      g.code = letterCode := ⟨_, rfl, by decide +kernel⟩
  have declared : ∃ n ds, Naming.build Config.default (letters (.str "[Body]")) = .ok n ∧
      declarations Config.default n (letters (.str "[Body]")) = .ok ds ∧
      (ds.models ++ ds.types).map (fun decl => decl.properties.map (·.type)) = [["(Body)"]] :=
    ⟨_, _, rfl, rfl, rfl⟩
  obtain ⟨g, hg, code⟩ := made
  obtain ⟨n, ds, writes⟩ := exists_writes hg
  obtain ⟨_, _, hn, hd, types⟩ := declared
  cases hn.symm.trans writes.naming
  cases hd.symm.trans writes.declarations
  refine ⟨g, n, ds, hg, code, writes, ?_, ?_⟩
  · rw [declaredIn_helperSection, mem_usedHelpers writes.declarations]
    exact jsonValue_usedBy_letters _
  · rintro ⟨decl, hdecl, p, hp, mentioned⟩
    have ofDecl : decl.properties.map (·.type) ∈ [["(Body)"]] := by
      rw [← types]
      exact List.mem_map_of_mem hdecl
    have ofProperty : p.type ∈ ["(Body)"] := by
      rw [← List.mem_singleton.1 ofDecl]
      exact List.mem_map_of_mem hp
    rw [List.mem_singleton.1 ofProperty] at mentioned
    exact absurd mentioned (by decide)

end TypeScript

end Typewright
