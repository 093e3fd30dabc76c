import Typewright.Proofs.Naming.Lookup
import Typewright.Proofs.TypeScript.Relations

/-!
# Columns are properties

A data-access file imports the types of the models and picks properties from them: the columns of a
table, and its primary key. What it picks has to be there. A column is a field that is no relation
to a model, and where relations are left out, these are just the fields that have properties. The
two say so in ways of their own: one looks the type of the field up among the composite types, the
other resolves it. `Pg.isColumn_eq` and `TypeScript.isRelation_eq` bring both to `Naming.relates`.

`tables_declared` is the main statement. It asks that composite types have names with something to
show. Otherwise a composite type could be rendered as nothing, and would be a column without being a
type.
-/

namespace Typewright

open TypeScript (FieldType Property ModelDeclaration fieldType property properties
  modelDeclaration)

/-! ## Relations -/

/-- A field is a relation to a model: an object of a type that names a model, and no composite
type. -/
structure Datamodel.RelatesToModel (d : Datamodel) (f : Field) : Prop where
  object : f.kind = .object
  model : ∃ v ∈ d.names .models, v.key? = f.type.key?
  notComposite : ∀ v ∈ d.names .types, v.key? ≠ f.type.key?

section Relations

variable {c : Config} {n : Naming} {d : Datamodel} {m : Model} {f : Field}

/-- Composite types with something to show are not found under an empty name. -/
theorem Naming.Finds.types_get_ne (finds : n.Finds c d)
    (shown : ∀ v ∈ d.names .types, v.display ≠ "") (v : Value) :
    n.types.get v ≠ .ok (some "") := by
  intro h
  obtain ⟨w, hw, _, empty⟩ := finds.name (p := .types) h
  exact affixed_ne_empty_of_display (shown w hw) empty.symm

/-- What relates to a model under a naming does so in the data model. -/
theorem Naming.Finds.relatesToModel (finds : n.Finds c d)
    (shown : ∀ v ∈ d.names .types, v.display ≠ "") (h : n.relates f = true) :
    d.RelatesToModel f := by
  rw [relates] at h
  split at h
  · next name hk hr =>
      obtain ⟨hc | hc, hm, _⟩ := resolve_eq_model.1 hr
      · obtain ⟨v, hv, same, _⟩ := finds.name (p := .models) hm
        refine ⟨hk, ⟨v, hv, same⟩, fun w hw sameType => ?_⟩
        obtain ⟨r, hr⟩ := finds.found hw
        cases NameMap.get_unique sameType hr hc
      · exact absurd hc (finds.types_get_ne shown _)
  · cases h

end Relations

/-! ## Columns -/

section Columns

variable {c : Config} {n : Naming} {d : Datamodel} {m : Model}

theorem Pg.isColumn_of_kind {f : Field} (hk : f.kind ≠ .object) : isColumn n f = .ok true := by
  rw [isColumn]
  split
  · next h => exact absurd h hk
  · rfl

/-- A field with a type is a column unless it is a relation. -/
theorem Pg.isColumn_eq (finds : n.Finds c d) (shown : ∀ v ∈ d.names .types, v.display ≠ "")
    {f : Field} {t : FieldType} (ht : fieldType c n m f = .ok t) {b : Bool}
    (h : isColumn n f = .ok b) : b = !n.relates f := by
  by_cases hk : f.kind = .object
  · rw [isColumn, hk] at h
    obtain ⟨o, ho, rfl⟩ := NameMap.has_eq_ok.1 h
    rw [fieldType, hk] at ht
    obtain ⟨name, hr, rfl⟩ | ⟨name, hr, rfl⟩ := TypeScript.objectFieldType_eq_ok.1 ht
    · cases ho.symm.trans (Naming.resolve_eq_composite.1 hr).1
      rw [Naming.relates, hk, hr]
      rfl
    -- A composite type with nothing to show is passed over here and found as a column there.
    · obtain ⟨hc | hc, _⟩ := Naming.resolve_eq_model.1 hr
      · cases ho.symm.trans hc
        rw [Naming.relates, hk, hr]
        rfl
      · exact absurd hc (finds.types_get_ne shown _)
  · cases h.symm.trans (isColumn_of_kind hk)
    rw [Naming.relates_of_kind hk]
    rfl

/-- The columns of a table are the fields that are no relations. -/
theorem Pg.columns_eq (finds : n.Finds c d) (shown : ∀ v ∈ d.names .types, v.display ≠ "")
    (typed : ∀ f ∈ m.fields, ∃ t, fieldType c n m f = .ok t) {t : Table}
    (h : table n m = .ok t) :
    t.columns = (m.fields.filter fun f => !n.relates f).map (·.name) := by
  obtain ⟨_, _, _, found, hf, columns⟩ := table_eq_ok.1 h
  rw [columns, ← map_filterMap_of_mapM (p := id) (fun f mem o ho => ?_) hf, List.map_id]
  obtain ⟨t, ht⟩ := typed f mem
  obtain ⟨b, hb, rfl⟩ := column?_eq_ok.1 ho
  rw [isColumn_eq finds shown ht hb, Option.map_id]
  rfl

/-- The properties of a model are its fields, without the relations if these are left out. -/
theorem TypeScript.property_names {ps : List Property} (h : properties c n m = .ok ps) :
    ps.map (·.name) =
      (m.fields.filter fun f => !(n.relates f && c.flag .omitRelations)).map (·.name) :=
  properties_map (fun _ _ => rfl) h

end Columns

/-! ## Relations left out -/

section Omitted

variable {c : Config} {n : Naming} {d : Datamodel} {m : Model}

theorem Config.flag_omitting (c : Config) (v : Value) :
    (c.set .omitRelations v).flag .omitRelations = v.truthy := rfl

theorem Naming.build_omitting (v : Value) :
    Naming.build (c.set .omitRelations v) d = Naming.build c d := rfl

end Omitted

/-! ## Tables -/

/-- What a table picks from the declaration of its model is there. -/
structure Pg.Table.Declared (c : Config) (d : Datamodel) (n : Naming) (m : Model) (t : Table) :
    Prop where
  table : Pg.table n m = .ok t
  /-- Where relations are left out, the columns are the properties. -/
  omitted : ∀ v : Value, v.truthy = true → ∃ decl,
    modelDeclaration (c.set .omitRelations v) n m = .ok decl ∧
      t.columns = decl.properties.map (·.name)
  /-- Where they are not, the columns are among the properties. -/
  kept : ∀ v : Value, v.truthy = false → ∃ decl,
    modelDeclaration (c.set .omitRelations v) n m = .ok decl ∧
      t.columns.Sublist (decl.properties.map (·.name))
  /-- The primary key is among the columns if no field of it is a relation. -/
  key : (∀ f ∈ m.idFields, ¬ d.RelatesToModel f) → t.primaryKey.Sublist t.columns

section Tables

variable {c : Config} {n : Naming} {d : Datamodel} {m : Model}

/-- The primary key of a table is among its columns if no field of it is a relation. -/
theorem Pg.primaryKey_sublist (finds : n.Finds c d)
    (shown : ∀ v ∈ d.names .types, v.display ≠ "") {t : Table} (h : table n m = .ok t)
    (columns : t.columns = (m.fields.filter fun f => !n.relates f).map (·.name))
    (plain : ∀ f ∈ m.idFields, ¬ d.RelatesToModel f) : t.primaryKey.Sublist t.columns := by
  obtain ⟨_, _, key, _⟩ := table_eq_ok.1 h
  rw [key, columns]
  refine List.Sublist.map _ ?_
  have all : m.idFields.filter (fun f => !n.relates f) = m.idFields := by
    refine List.filter_eq_self.2 fun f hf => ?_
    cases hr : n.relates f with
    | true => exact absurd (finds.relatesToModel shown hr) (plain f hf)
    | false => rfl
  rw [← all]
  exact List.filter_sublist.filter _

/-- The table of a model whose declaration is made picks what is there. -/
theorem Pg.declared_of_ok (finds : n.Finds c d) (shown : ∀ v ∈ d.names .types, v.display ≠ "")
    {decl : ModelDeclaration} (hd : modelDeclaration c n m = .ok decl) {t : Table}
    (ht : table n m = .ok t) : t.Declared c d n m := by
  have typed := TypeScript.fieldType_of_properties (TypeScript.modelDeclaration_eq_ok.1 hd).2.1
  have columns := columns_eq finds shown typed ht
  -- The properties of the model, with relations treated as a value says.
  have made (v : Value) : ∃ decl, modelDeclaration (c.set .omitRelations v) n m = .ok decl ∧
      decl.properties.map (·.name) =
        (m.fields.filter fun f => !(n.relates f && v.truthy)).map (·.name) := by
    obtain ⟨other, ho, _⟩ :=
      TypeScript.exists_differInRelations (c.equalButRelations_set (s := .omitRelations) rfl v) hd
    have names := TypeScript.property_names (TypeScript.modelDeclaration_eq_ok.1 ho).2.1
    rw [Config.flag_omitting] at names
    exact ⟨other, ho, names⟩
  refine ⟨ht, fun v on => ?_, fun v off => ?_, primaryKey_sublist finds shown ht columns⟩
  · obtain ⟨other, ho, names⟩ := made v
    simp only [on, Bool.and_true] at names
    exact ⟨other, ho, columns.trans names.symm⟩
  · obtain ⟨other, ho, names⟩ := made v
    simp only [off, Bool.and_false, Bool.not_false, List.filter_true] at names
    refine ⟨other, ho, ?_⟩
    rw [columns, names]
    exact List.filter_sublist.map _

end Tables

/-! ## Files -/

/-- The data-access file of a data model imports the names of the declarations of its models, in
order, and picks from each declaration what is there. -/
theorem Pg.tables_declared {directory : List String} {c : Config} {d : Datamodel}
    {g g' : Generated} (shown : ∀ v ∈ d.names .types, v.display ≠ "")
    (h : generate .typeScript directory c d = .ok g)
    (h' : generate .pg directory c d = .ok g') :
    ∃ n ds tables, TypeScript.Writes c d n ds g ∧ Writes directory c d n tables g' ∧
      (∀ v, Naming.build (c.set .omitRelations v) d = .ok n) ∧
      tables.map (·.name) = ds.models.map (·.name) ∧
      List.Forall₂ (fun m t => t.Declared c d n m) d.models tables := by
  obtain ⟨n, ds, writes⟩ := TypeScript.exists_writes h
  obtain ⟨n', tables, writes'⟩ := exists_writes h'
  cases writes.naming.symm.trans writes'.naming
  obtain ⟨_, models, _⟩ := TypeScript.declarations_eq_ok.1 writes.declarations
  refine ⟨n, ds, tables, writes, writes', fun v => (Naming.build_omitting v).trans writes.naming,
    ?_, ?_⟩
  · refine map_eq_of_mapM (fun m t decl ht hd => ?_) writes'.models models
    obtain ⟨ht, _⟩ := table_eq_ok.1 ht
    obtain ⟨_, _, hd⟩ := TypeScript.modelDeclaration_eq_ok.1 hd
    exact Except.ok.inj (ht.symm.trans hd)
  · have finds := Naming.build_finds writes.naming
    have declared := TypeScript.modelDeclaration_of_declarations writes.declarations
    have each := List.forall₂_and_left _ _ |>.2
      ⟨fun m hm => declared m (List.mem_append_left _ hm), mapM_eq_ok.1 writes'.models⟩
    refine each.imp fun m t both => ?_
    obtain ⟨⟨decl, hd⟩, ht⟩ := both
    exact declared_of_ok finds shown hd ht

/-- Members with a key, a place, and a relation to the member who invited them. -/
def members : Datamodel where
  models :=
    [{ name := .str "Member", dbName := .null, documentation := .null
       fields := [{ Datamodel.plainField "id" .scalar "Int" with isId := .bool true },
         Datamodel.plainField "host" .object "Member",
         Datamodel.plainField "place" .object "Place"] }]
  enums := []
  types :=
    [{ name := .str "Place", dbName := .null, documentation := .null
       fields := [Datamodel.plainField "town" .scalar "String"] }]

/-- The columns of members are their key and their place. -/
theorem members_tables_declared :
    (∀ v ∈ members.names .types, v.display ≠ "") ∧
      ∃ g g' n ds tables, generate .typeScript ["src"] Config.default members = .ok g ∧
        generate .pg ["src"] Config.default members = .ok g' ∧
        TypeScript.Writes Config.default members n ds g ∧
        Pg.Writes ["src"] Config.default members n tables g' ∧
        tables.map (fun t => (t.primaryKey, t.columns)) =
          [([.str "id"], [.str "id", .str "place"])] ∧
        (∀ v, Naming.build (Config.default.set .omitRelations v) members = .ok n) ∧
        tables.map (·.name) = ds.models.map (·.name) ∧
        List.Forall₂ (fun m t => t.Declared Config.default members n m) members.models tables := by
  have shown : ∀ v ∈ members.names .types, v.display ≠ "" := by
    intro v hv
    cases List.mem_singleton.1 hv
    decide
  have made : ∃ g g', generate .typeScript ["src"] Config.default members = .ok g ∧
      generate .pg ["src"] Config.default members = .ok g' := ⟨_, _, rfl, rfl⟩
  have picked : ∃ n tables, Naming.build Config.default members = .ok n ∧
      members.models.mapM (Pg.table n) = .ok tables ∧
      tables.map (fun t => (t.primaryKey, t.columns)) =
        [([.str "id"], [.str "id", .str "place"])] := ⟨_, _, rfl, rfl, rfl⟩
  obtain ⟨g, g', hg, hg'⟩ := made
  obtain ⟨n, ds, tables, writes, writes', built, names, declared⟩ :=
    Pg.tables_declared shown hg hg'
  obtain ⟨_, _, hn, ht, picked⟩ := picked
  cases writes.naming.symm.trans hn
  cases writes'.models.symm.trans ht
  exact ⟨shown, g, g', n, ds, tables, hg, hg', writes, writes', picked, built, names, declared⟩

end Typewright
