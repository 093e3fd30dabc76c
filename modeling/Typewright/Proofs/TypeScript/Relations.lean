import Typewright.Proofs.Generation
import Typewright.Proofs.Naming

/-!
# How relations are treated

Two settings say how relations to models are treated in declarations: whether they are left out, and
whether they are optional. The settings are looked at when a field has its type, its names have been
looked up and its helper type has been recorded. So everything else in a file is the same whatever
they say (`Config.EqualButRelations`), and so is whether there is a file at all.

Which fields are relations is for the naming to say (`Naming.relates`). A scalar that is the key of
a relation is none itself. `relations_only` says of two configurations what becomes of the
declarations of a data model.
-/

namespace Typewright

/-! ## Relations -/

/-- Whether the type of an object refers to a model under a naming. -/
def Naming.relates (n : Naming) (f : Field) : Bool :=
  match f.kind, n.resolve f.type with
  | .object, .ok (some (.model _)) => true
  | _, _ => false

theorem Naming.relates_of_kind {n : Naming} {f : Field} (hk : f.kind ≠ .object) :
    n.relates f = false := by
  rw [relates]
  split
  · next h _ => exact absurd h hk
  · rfl

/-- A field of the type of a model is a relation, and no other field is. -/
theorem TypeScript.isRelation_eq {c : Config} {n : Naming} {m : Model} {f : Field} {t : FieldType}
    (h : fieldType c n m f = .ok t) : t.isRelation = n.relates f := by
  by_cases hk : f.kind = .object
  · rw [fieldType, hk] at h
    obtain ⟨name, hr, rfl⟩ | ⟨name, hr, rfl⟩ := objectFieldType_eq_ok.1 h
    · rw [Naming.relates, hk, hr]
      rfl
    · rw [Naming.relates, hk, hr]
      rfl
  · rw [isRelation_of_kind hk h, Naming.relates_of_kind hk]

/-- The fields of a model that have properties: all of them, without the relations if these are left
out. -/
def Model.declared (c : Config) (n : Naming) (m : Model) : List Field :=
  m.fields.filter fun f => !(n.relates f && c.flag .omitRelations)

/-- What properties have from their fields whatever the types are, they have in the order of the
fields. -/
theorem TypeScript.properties_map {c : Config} {n : Naming} {m : Model} {ps : List Property}
    {α : Type} {p : Property → α} {q : Field → α} (same : ∀ f t, p (declare c f t) = q f)
    (h : properties c n m = .ok ps) : ps.map p = (m.declared c n).map q := by
  obtain ⟨found, hf, rfl⟩ := properties_eq_ok.1 h
  refine map_filterMap_of_mapM (fun f _ o ho => ?_) hf
  obtain ⟨t, ht, rfl⟩ := property_eq_ok.1 ho
  rw [declare?, isRelation_eq ht]
  cases n.relates f && c.flag .omitRelations with
  | true => rfl
  | false => exact congrArg some (same f t)

/-! ## What the treatment of relations does not change -/

/-- Whether a setting is one of those that treat relations. -/
def Setting.treatsRelations : Setting → Bool
  | omitRelations | optionalRelations => true
  | _ => false

namespace Config

/-- Two configurations have the same settings but for those that treat relations. -/
def EqualButRelations (c c' : Config) : Prop :=
  ∀ s : Setting, s.treatsRelations = false → c'.value s = c.value s

theorem equalButRelations_set (c : Config) {s : Setting} (treats : s.treatsRelations = true)
    (v : Value) : c.EqualButRelations (c.set s v) := by
  intro t other
  refine if_neg ?_
  rintro rfl
  cases treats.symm.trans other

namespace EqualButRelations

variable {c c' : Config} (same : c.EqualButRelations c')

include same

theorem symm : c'.EqualButRelations c := fun s other => (same s other).symm

theorem flag_eq {s : Setting} (other : s.treatsRelations = false) : c'.flag s = c.flag s :=
  congrArg Value.truthy (same s other)

theorem build_eq (d : Datamodel) : Naming.build c' d = Naming.build c d := by
  have parts (p : Part) : NameMap.ofPart c' d p = NameMap.ofPart c d p := by
    cases p <;> exact congrArg₂ (NameMap.build _) (same _ rfl) (same _ rfl)
  simp only [Naming.build, Naming.ofDatamodel, parts]

theorem scalarType_eq (tag : Value) :
    TypeScript.scalarType c' tag = TypeScript.scalarType c tag := by
  have expression (s : Scalar) :
      TypeScript.scalarExpression c' s = TypeScript.scalarExpression c s := by
    cases s with
    | dateTime | bigInt | decimal | bytes =>
        exact congrArg TypeScript.groupUnion (same _ rfl)
    | _ => rfl
  simp only [TypeScript.scalarType, TypeScript.tagExpression, expression]

theorem resolve_eq (doc : List Char) : Annotations.resolve c' doc = Annotations.resolve c doc := by
  have qualified (isLiteral : Bool) (body : List Char) :
      Annotations.qualified c' isLiteral body = Annotations.qualified c isLiteral body := by
    rw [Annotations.qualified, Annotations.qualified, same .namespaceType rfl,
      same .useType rfl, same .annotationSpace rfl,
      same.flag_eq (s := .namespaceType) rfl, same.flag_eq (s := .useType) rfl]
  simp only [Annotations.resolve, Annotations.ofBracket, qualified]

theorem fieldType_eq (n : Naming) (m : Model) (f : Field) :
    TypeScript.fieldType c' n m f = TypeScript.fieldType c n m f := by
  simp only [TypeScript.fieldType, TypeScript.scalarFieldType, TypeScript.plainType,
    same.scalarType_eq, same.resolve_eq]

theorem fieldHelper?_eq : TypeScript.fieldHelper? c' = TypeScript.fieldHelper? c := by
  funext f
  simp only [TypeScript.fieldHelper?, TypeScript.helperOfTag?, same.scalarType_eq]

theorem enumShape_eq : TypeScript.enumShape c' = TypeScript.enumShape c := by
  rw [TypeScript.enumShape, TypeScript.enumShape, same .enumType rfl]

theorem enumDeclaration_eq (n : Naming) :
    TypeScript.enumDeclaration c' n = TypeScript.enumDeclaration c n := by
  funext e
  rw [TypeScript.enumDeclaration, TypeScript.enumDeclaration, same.enumShape_eq]

theorem modelShape_eq : TypeScript.modelShape c' = TypeScript.modelShape c := by
  rw [TypeScript.modelShape, TypeScript.modelShape, same .modelType rfl]

theorem codeSection_eq {s : Setting} (other : s.treatsRelations = false) :
    codeSection c' s = codeSection c s := by
  rw [codeSection, codeSection, same s other]

end EqualButRelations

end Config

namespace TypeScript

open Datamodel (journal)

/-! ## Properties -/

/-- What makes a relation to a model optional. -/
def relationMark (c : Config) (f : Field) : Value :=
  (c.value .optionalRelations).orElse
    (if f.isRequired.truthy then .bool false else c.value .optionalNullables)

section Properties

variable {c c' : Config} {n : Naming} {m : Model}

theorem declare?_of_kept {f : Field} {t : FieldType} (kept : c.flag .omitRelations = false) :
    declare? c f t = some (declare c f t) := by
  rw [declare?, kept, Bool.and_false]
  rfl

theorem declare?_of_omitted {f : Field} {t : FieldType} (omitted : c.flag .omitRelations = true) :
    declare? c f t = if t.isRelation then none else some (declare c f t) := by
  rw [declare?, omitted, Bool.and_true]

/-- The property of a field that is no relation is the same. -/
theorem declare_eq (same : c.EqualButRelations c') {f : Field} {t : FieldType}
    (plain : t.isRelation = false) : declare c' f t = declare c f t := by
  have mark : optionalMark c' f t = optionalMark c f t := by
    simp only [optionalMark, plain, same .optionalNullables rfl]
    rfl
  rw [declare, declare, mark]

/-- The property of a relation has another mark, and is the same otherwise. -/
theorem declare_eq_of_isRelation {f : Field} {t : FieldType} (relation : t.isRelation = true) :
    declare c' f t = { declare c f t with isOptional := relationMark c' f } := by
  have mark : optionalMark c' f t = relationMark c' f := by
    simp only [optionalMark, relation, if_true]
    rfl
  rw [declare, declare, mark]

/-- The declarations of a model under two configurations differ in relations only: in their marks,
and in whether they are left out. -/
structure DifferInRelations (c c' : Config) (n : Naming) (m : Model)
    (decl decl' : ModelDeclaration) : Prop where
  name : decl'.name = decl.name
  shape : decl'.shape = decl.shape
  /-- Where relations are not left out, each field has a property. -/
  fields : c.flag .omitRelations = false →
    decl.properties.map (·.name) = m.fields.map (·.name)
  /-- Where they are left out then, the properties of relations are gone, and all others stay. -/
  omitted : c.flag .omitRelations = false → c'.flag .omitRelations = true →
    decl'.properties =
      ((m.fields.zip decl.properties).filter fun p => !n.relates p.1).map (·.2)
  /-- Where they are left out in neither, the properties of relations have marks of their own. -/
  kept : c.flag .omitRelations = false → c'.flag .omitRelations = false →
    decl'.properties = (m.fields.zip decl.properties).map fun p =>
      if n.relates p.1 then { p.2 with isOptional := relationMark c' p.1 } else p.2
  /-- Where they are left out in both, there is no difference. -/
  without : c.flag .omitRelations = true → c'.flag .omitRelations = true →
    decl'.properties = decl.properties

section Typed

variable {typed : List (Field × FieldType)}

theorem filterMap_declare?_of_kept (kept : c.flag .omitRelations = false) :
    (typed.filterMap fun p => declare? c p.1 p.2) = typed.map fun p => declare c p.1 p.2 :=
  List.filterMap_eq_map_iff_forall_eq_some.2 fun _ _ => declare?_of_kept kept

theorem filterMap_declare?_of_omitted
    (relations : ∀ p ∈ typed, p.2.isRelation = n.relates p.1)
    (omitted : c.flag .omitRelations = true) :
    (typed.filterMap fun p => declare? c p.1 p.2) =
      (typed.filter fun p => !n.relates p.1).map fun p => declare c p.1 p.2 := by
  rw [← List.filterMap_eq_map, List.filterMap_filter]
  refine List.filterMap_congr fun p hp => ?_
  rw [declare?_of_omitted omitted, relations p hp]
  cases n.relates p.1 with
  | true => rfl
  | false => rfl

/-- The properties of the fields that are no relations are the same. -/
theorem map_declare_eq (same : c.EqualButRelations c')
    (relations : ∀ p ∈ typed, p.2.isRelation = n.relates p.1) :
    ((typed.filter fun p => !n.relates p.1).map fun p => declare c' p.1 p.2) =
      (typed.filter fun p => !n.relates p.1).map fun p => declare c p.1 p.2 := by
  refine List.map_congr_left fun p hp => ?_
  obtain ⟨mem, plain⟩ := List.mem_filter.1 hp
  exact declare_eq same ((relations p mem).trans (Bool.not_eq_true' _ ▸ plain))

/-- Where all fields have properties, those of relations have marks of their own. -/
theorem map_declare_marked (same : c.EqualButRelations c')
    (relations : ∀ p ∈ typed, p.2.isRelation = n.relates p.1) :
    (typed.map fun p => declare c' p.1 p.2) = typed.map fun p =>
      if n.relates p.1 then { declare c p.1 p.2 with isOptional := relationMark c' p.1 }
      else declare c p.1 p.2 := by
  refine List.map_congr_left fun p hp => ?_
  cases hr : n.relates p.1 with
  | true =>
      rw [if_pos rfl]
      exact declare_eq_of_isRelation ((relations p hp).trans hr)
  | false =>
      rw [if_neg Bool.false_ne_true]
      exact declare_eq same ((relations p hp).trans hr)

end Typed

/-- A declaration that is made is made as well where relations are treated otherwise, and the two
differ in relations only. -/
theorem exists_differInRelations (same : c.EqualButRelations c') {decl : ModelDeclaration}
    (h : modelDeclaration c n m = .ok decl) :
    ∃ decl', modelDeclaration c' n m = .ok decl' ∧ DifferInRelations c c' n m decl decl' := by
  obtain ⟨hs, hp, hn⟩ := modelDeclaration_eq_ok.1 h
  obtain ⟨typed, fields, types, properties⟩ := properties_eq_ok_typed.1 hp
  have relations : ∀ p ∈ typed, p.2.isRelation = n.relates p.1 := fun p hp =>
    isRelation_eq (types p hp)
  have made : modelDeclaration c' n m =
      .ok ⟨decl.name, decl.shape, typed.filterMap fun p => declare? c' p.1 p.2⟩ := by
    refine modelDeclaration_eq_ok.2 ⟨same.modelShape_eq.trans hs, ?_, hn⟩
    exact properties_eq_ok_typed.2
      ⟨typed, fields, fun p hp => (same.fieldType_eq n m p.1).trans (types p hp), rfl⟩
  -- Where each field has a property, the two stand beside each other.
  have beside (kept : c.flag .omitRelations = false) :
      m.fields.zip decl.properties = typed.map fun p => (p.1, declare c p.1 p.2) := by
    rw [properties, filterMap_declare?_of_kept kept, ← fields, List.zip_map']
  refine ⟨_, made, rfl, rfl, fun kept => ?_, fun kept omitted => ?_, fun kept kept' => ?_,
    fun omitted omitted' => ?_⟩
  · rw [properties, filterMap_declare?_of_kept kept, ← fields, List.map_map, List.map_map]
    rfl
  · rw [beside kept, List.filter_map, List.map_map]
    exact (filterMap_declare?_of_omitted relations omitted).trans (map_declare_eq same relations)
  · rw [beside kept, List.map_map]
    exact (filterMap_declare?_of_kept kept').trans (map_declare_marked same relations)
  · show (typed.filterMap fun p => declare? c' p.1 p.2) = _
    rw [properties, filterMap_declare?_of_omitted relations omitted,
      filterMap_declare?_of_omitted relations omitted', map_declare_eq same relations]

end Properties

/-! ## Files -/

section Files

variable {directory : List String} {c c' : Config} {d : Datamodel}

/-- What is generated is generated as well where relations are treated otherwise. -/
theorem exists_generated (same : c.EqualButRelations c') {g : Generated}
    (h : generate .typeScript directory c d = .ok g) :
    ∃ g', generate .typeScript directory c' d = .ok g' := by
  obtain ⟨n, code, hn, hc, _⟩ := generate_eq_ok.1 h
  obtain ⟨ds, before, after, hd, hb, ha, _⟩ := file_eq_ok.1 hc
  have made : ∃ ds', declarations c' n d = .ok ds' := by
    obtain ⟨he, _⟩ := exists_declarations_eq_ok.1 ⟨ds, hd⟩
    refine exists_declarations_eq_ok.2 ⟨by rwa [same.enumDeclaration_eq], ?_⟩
    refine exists_mapM_eq_ok.2 fun m hm => ?_
    obtain ⟨decl, hdecl⟩ := modelDeclaration_of_declarations hd m hm
    obtain ⟨decl', hdecl', _⟩ := exists_differInRelations same hdecl
    exact ⟨decl', hdecl'⟩
  obtain ⟨ds', hd'⟩ := made
  rw [← same.codeSection_eq (s := .prefixCode) rfl] at hb
  rw [← same.codeSection_eq (s := .suffixCode) rfl] at ha
  exact ⟨_, generate_eq_ok.2
    ⟨n, _, (same.build_eq d).trans hn, file_eq_ok.2 ⟨ds', before, after, hd', hb, ha, rfl⟩, rfl⟩⟩

/-- Where declarations are made, the same helper types are met. -/
theorem usedHelpers_congr (same : c.EqualButRelations c') {n : Naming} {ds ds' : Declarations}
    (h : declarations c n d = .ok ds) (h' : declarations c' n d = .ok ds') :
    usedHelpers c' n d = usedHelpers c n d := by
  rw [usedHelpers_eq h, usedHelpers_eq h', same.fieldHelper?_eq]

/-- The declarations of models under two configurations, each beside its model. -/
theorem forall₂_differInRelations (same : c.EqualButRelations c') {n : Naming} {ms : List Model}
    {decls decls' : List ModelDeclaration} (h : ms.mapM (modelDeclaration c n) = .ok decls)
    (h' : ms.mapM (modelDeclaration c' n) = .ok decls') :
    List.Forall₂ (fun m p => DifferInRelations c c' n m p.1 p.2) ms (decls.zip decls') := by
  rw [mapM_eq_ok] at h h'
  induction h generalizing decls' with
  | nil => exact .nil
  | cons made _ ih =>
      cases h' with
      | cons made' rest' =>
          obtain ⟨_, also, differ⟩ := exists_differInRelations same made
          cases made'.symm.trans also
          exact .cons differ (ih rest')

/-- Two configurations that are the same but for the treatment of relations have declarations of the
same data models, with the same enums and helper types. The declarations of models and composite
types differ in relations only. -/
theorem relations_only (same : c.EqualButRelations c') :
    ((∃ g, generate .typeScript directory c d = .ok g) ↔
        ∃ g', generate .typeScript directory c' d = .ok g') ∧
      ∀ g g', generate .typeScript directory c d = .ok g →
        generate .typeScript directory c' d = .ok g' →
        ∃ n ds ds', Writes c d n ds g ∧ Writes c' d n ds' g' ∧
          ds'.enums = ds.enums ∧
          helperSection (usedHelpers c' n d) = helperSection (usedHelpers c n d) ∧
          g'.figures.helpers = g.figures.helpers ∧
          List.Forall₂ (fun m p => DifferInRelations c c' n m p.1 p.2) d.models
            (ds.models.zip ds'.models) ∧
          List.Forall₂ (fun m p => DifferInRelations c c' n m p.1 p.2) d.types
            (ds.types.zip ds'.types) := by
  refine ⟨⟨fun ⟨_, h⟩ => exists_generated same h, fun ⟨_, h⟩ => exists_generated same.symm h⟩,
    fun g g' h h' => ?_⟩
  obtain ⟨n, ds, writes⟩ := exists_writes h
  obtain ⟨n', ds', writes'⟩ := exists_writes h'
  cases writes.naming.symm.trans ((same.build_eq d).symm.trans writes'.naming)
  have used := usedHelpers_congr same writes.declarations writes'.declarations
  obtain ⟨he, hm, ht⟩ := declarations_eq_ok.1 writes.declarations
  obtain ⟨he', hm', ht'⟩ := declarations_eq_ok.1 writes'.declarations
  rw [same.enumDeclaration_eq] at he'
  refine ⟨n, ds, ds', writes, writes', Except.ok.inj (he'.symm.trans he), by rw [used], ?_,
    forall₂_differInRelations same hm hm', forall₂_differInRelations same ht ht'⟩
  rw [generate_figures h writes.naming, generate_figures h' writes'.naming]
  exact congrArg (fun used => (inOrder used).map (·.name)) used

end Files

/-- A configuration under which relations are left out. -/
def withoutRelations : Config := Config.default.set .omitRelations (.bool true)

/-- The posts of users are declared without their authors, and the authors without their posts. The
key of an author has the same type as before. -/
theorem journal_relations_only :
    Config.default.EqualButRelations withoutRelations ∧
      ∃ g g' n ds ds', generate .typeScript ["src"] Config.default journal = .ok g ∧
        generate .typeScript ["src"] withoutRelations journal = .ok g' ∧
        Writes Config.default journal n ds g ∧ Writes withoutRelations journal n ds' g' ∧
        (ds'.models.map fun decl => decl.properties.map fun p => (p.name, p.type)) =
          [[(.str "id", "number"), (.str "role", "Role")],
            [(.str "authorId", "User['id']"), (.str "place", "Place"), (.str "raw", "any")]] ∧
        ds'.enums = ds.enums ∧
        List.Forall₂ (fun m p => DifferInRelations Config.default withoutRelations n m p.1 p.2)
          journal.models (ds.models.zip ds'.models) ∧
        List.Forall₂ (fun m p => DifferInRelations Config.default withoutRelations n m p.1 p.2)
          journal.types (ds.types.zip ds'.types) := by
  have same : Config.default.EqualButRelations withoutRelations :=
    Config.default.equalButRelations_set rfl _
  have made : ∃ g, generate .typeScript ["src"] Config.default journal = .ok g := ⟨_, rfl⟩
  have declared : ∃ n ds', Naming.build withoutRelations journal = .ok n ∧
      declarations withoutRelations n journal = .ok ds' ∧
      (ds'.models.map fun decl => decl.properties.map fun p => (p.name, p.type)) =
        [[(.str "id", "number"), (.str "role", "Role")],
          [(.str "authorId", "User['id']"), (.str "place", "Place"), (.str "raw", "any")]] :=
    ⟨_, _, rfl, rfl, rfl⟩
  obtain ⟨g, hg⟩ := made
  obtain ⟨iff, differ⟩ := relations_only (d := journal) same
  obtain ⟨g', hg'⟩ := iff.1 ⟨g, hg⟩
  obtain ⟨n, ds, ds', writes, writes', enums, _, _, models, types⟩ := differ g g' hg hg'
  obtain ⟨n', ds'', hn, hds, names⟩ := declared
  cases hn.symm.trans writes'.naming
  cases hds.symm.trans writes'.declarations
  exact ⟨same, g, g', n, ds, ds', hg, hg', writes, writes', names, enums, models, types⟩

end TypeScript

end Typewright
