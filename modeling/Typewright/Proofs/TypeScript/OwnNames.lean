import Typewright.Proofs.TypeScript.TopLevel

/-!
# Declarations under the names of their own parts

A model is to be declared under its raw name between the affixes of models, and a composite type
under its raw name between those of composite types (`Declarations.NamedByPart`). Both are declared
by one definition, which asks the models for a rendered name before it asks the composite types. So
a composite type that shares its raw name with a model is declared as the model is.

`namedByPart_iff` says that nothing else goes wrong. Every declaration has the name of its own part
exactly if no composite type shares its name with a model, and names that count as one name are
rendered alike (`OwnNames`). The second is always so of texts (`ownNames_iff_of_texts`).
`addresses_not_namedByPart` is a file in which a composite type has the name of a model.
-/

namespace Typewright.TypeScript

/-- Every model and every composite type is declared under its own rendered name. -/
structure Declarations.NamedByPart (ds : Declarations) (c : Config) (d : Datamodel) : Prop where
  models : ds.models.map (·.name) = (d.names .models).map (c.rendered .models)
  types : ds.types.map (·.name) = (d.names .types).map (c.rendered .types)

/-- What keeps models and composite types under their own names. -/
structure OwnNames (c : Config) (d : Datamodel) : Prop where
  /-- Names with one key are rendered alike. -/
  alike : ∀ p, p ≠ .enums → ∀ v ∈ d.names p, ∀ w ∈ d.names p, w.key? = v.key? →
    c.rendered p w = c.rendered p v
  /-- No composite type has the name of a model. -/
  disjoint : ∀ v ∈ d.names .models, ∀ w ∈ d.names .types, v.key? ≠ w.key?

/-- Texts are one name only if they are equal. -/
theorem ownNames_iff_of_texts {c : Config} {d : Datamodel} (texts : d.Texts) :
    OwnNames c d ↔ ∀ v ∈ d.names .models, v ∉ d.names .types := by
  constructor
  · intro own v hm ht
    exact own.disjoint v hm v ht rfl
  · intro disjoint
    refine ⟨fun p _ v hv w _ same => ?_, fun v hv w hw same => ?_⟩
    · obtain ⟨s, rfl⟩ := texts p v hv
      rw [Value.key?_eq_str_iff.1 same]
    · obtain ⟨s, rfl⟩ := texts .types w hw
      exact disjoint v hv (Value.key?_eq_str_iff.1 same ▸ hw)

section Names

variable {c : Config} {n : Naming} {d : Datamodel} {ds : Declarations}

/-- Declarations have given names if what they declare is declared under them. -/
theorem map_name_eq_iff {ms : List Model} {decls : List ModelDeclaration} (name : Value → String)
    (h : ms.mapM (modelDeclaration c n) = .ok decls) :
    decls.map (·.name) = (ms.map (·.name)).map name ↔
      ∀ v ∈ ms.map (·.name), n.declarationName v = .ok (name v) := by
  rw [mapM_eq_ok] at h
  induction h with
  | nil => simp
  | @cons m decl ms decls hdecl _ ih =>
      obtain ⟨_, _, hn⟩ := modelDeclaration_eq_ok.1 hdecl
      rw [List.map_cons, List.map_cons, List.map_cons, List.cons_eq_cons, ih, List.forall_mem_cons,
        hn, Except.ok.injEq]

/-- The names of a file are those of the parts if every name is declared under its own form. -/
theorem namedByPart_iff_declarationName (made : declarations c n d = .ok ds) :
    ds.NamedByPart c d ↔
      ∀ p, p ≠ .enums → ∀ v ∈ d.names p, n.declarationName v = .ok (c.rendered p v) := by
  obtain ⟨_, hm, ht⟩ := declarations_eq_ok.1 made
  have models := map_name_eq_iff (c.rendered .models) hm
  have types := map_name_eq_iff (c.rendered .types) ht
  constructor
  · intro named p hp
    cases p with
    | enums => exact absurd rfl hp
    | models => exact models.1 named.models
    | types => exact types.1 named.types
  · intro each
    exact ⟨models.2 (each .models (by decide)), types.2 (each .types (by decide))⟩

/-- What is declared has a name. -/
theorem exists_declarationName_of_mem (made : declarations c n d = .ok ds) {p : Part}
    (hp : p ≠ .enums) {v : Value} (hv : v ∈ d.names p) : ∃ r, n.declarationName v = .ok r := by
  have declared : ∃ m ∈ d.models ++ d.types, m.name = v := by
    cases p with
    | enums => exact absurd rfl hp
    | models =>
        obtain ⟨m, hm, name⟩ := List.mem_map.1 hv
        exact ⟨m, List.mem_append_left _ hm, name⟩
    | types =>
        obtain ⟨m, hm, name⟩ := List.mem_map.1 hv
        exact ⟨m, List.mem_append_right _ hm, name⟩
  obtain ⟨m, hm, rfl⟩ := declared
  obtain ⟨decl, hdecl⟩ := modelDeclaration_of_declarations made m hm
  exact ⟨_, (modelDeclaration_eq_ok.1 hdecl).2.2⟩

theorem OwnNames.declarationName (own : OwnNames c d) (finds : n.Finds c d)
    (made : declarations c n d = .ok ds) {p : Part} (hp : p ≠ .enums) {v : Value}
    (hv : v ∈ d.names p) : n.declarationName v = .ok (c.rendered p v) := by
  obtain ⟨r, hr⟩ := exists_declarationName_of_mem made hp hv
  obtain ⟨q, hq, hg⟩ := Naming.exists_part_of_declarationName hr
  obtain ⟨w, hw, same, rfl⟩ := finds.name hg
  -- A name of the other part with the key of `v` is what `disjoint` excludes.
  have part : q = p := by
    cases p with
    | enums => exact absurd rfl hp
    | models =>
        cases q with
        | enums => exact absurd rfl hq
        | models => rfl
        | types => exact absurd same.symm (own.disjoint v hv w hw)
    | types =>
        cases q with
        | enums => exact absurd rfl hq
        | models => exact absurd same (own.disjoint w hw v hv)
        | types => rfl
  subst part
  rw [hr, own.alike q hq v hv w hw same]

theorem ownNames_of_declarationName (finds : n.Finds c d)
    (each : ∀ p, p ≠ .enums → ∀ v ∈ d.names p, n.declarationName v = .ok (c.rendered p v)) :
    OwnNames c d := by
  have alike : ∀ p, p ≠ .enums → ∀ v ∈ d.names p, ∀ w ∈ d.names p, w.key? = v.key? →
      c.rendered p w = c.rendered p v := fun p hp v hv w hw same =>
    (finds.declarationName_inj (each p hp w hw) (each p hp v hv)).2 same
  refine ⟨alike, fun v hv w hw same => ?_⟩
  have models : (n.part .models).get v = _ :=
    finds.get_of_alike hv (alike .models (by decide) v hv)
  have types : (n.part .types).get w = _ := finds.get_of_alike hw (alike .types (by decide) w hw)
  -- One name, and yet rendered in two parts.
  have one : c.rendered .models v = c.rendered .types w :=
    (finds.declarationName_inj (each .models (by decide) v hv) (each .types (by decide) w hw)).2
      same
  rw [one] at models
  exact absurd (finds.apart models types).1 (by decide)

end Names

/-! ## Files -/

/-- Every model and composite type of a file is declared under its own rendered name exactly if no
composite type has the name of a model, and names with one key are rendered alike. -/
theorem namedByPart_iff {directory : List String} {c : Config} {d : Datamodel} {g : Generated}
    (h : generate .typeScript directory c d = .ok g) :
    ∃ n ds, Writes c d n ds g ∧ (ds.NamedByPart c d ↔ OwnNames c d) := by
  obtain ⟨n, ds, writes⟩ := exists_writes h
  have finds := Naming.build_finds writes.naming
  refine ⟨n, ds, writes, ?_⟩
  rw [namedByPart_iff_declarationName writes.declarations]
  constructor
  · exact ownNames_of_declarationName finds
  · intro own p hp v hv
    exact own.declarationName finds writes.declarations hp hv

/-- A configuration that marks the names of models. -/
def markedModels : Config := Config.default.set .modelSuffix (.str "Row")

/-- Users, posts and places are declared under their own names. -/
theorem journal_namedByPart :
    ∃ g n ds, generate .typeScript ["src"] markedModels Datamodel.journal = .ok g ∧
      Writes markedModels Datamodel.journal n ds g ∧
      OwnNames markedModels Datamodel.journal ∧
      ds.models.map (·.name) = ["UserRow", "PostRow"] ∧ ds.types.map (·.name) = ["Place"] := by
  have made : ∃ g, generate .typeScript ["src"] markedModels Datamodel.journal = .ok g := ⟨_, rfl⟩
  obtain ⟨g, hg⟩ := made
  obtain ⟨n, ds, writes, named⟩ := namedByPart_iff hg
  have own : OwnNames markedModels Datamodel.journal := by
    rw [ownNames_iff_of_texts Datamodel.journal_named.texts]
    simp [Datamodel.journal, Datamodel.names]
  exact ⟨g, n, ds, hg, writes, own, (named.2 own).models, (named.2 own).types⟩

/-- An address of its own and one inside something else. -/
def addresses : Datamodel where
  models :=
    [{ name := .str "Address", dbName := .null, documentation := .null
       fields := [Datamodel.plainField "id" .scalar "Int"] }]
  enums := []
  types :=
    [{ name := .str "Address", dbName := .null, documentation := .null
       fields := [Datamodel.plainField "street" .scalar "String"] }]

/-- The file of addresses. -/
def addressesCode : String :=
  "// This file was auto-generated by schema-typegen\n\n" ++
    "export interface AddressRow \x7b\n  id: number;\n\x7d\n\n" ++
    "export interface AddressRow \x7b\n  street: string;\n\x7d\n"

/-- A composite type that shares its name with a model is declared under the name of the model. -/
theorem addresses_not_namedByPart :
    ∃ g n ds, generate .typeScript ["src"] markedModels addresses = .ok g ∧
      g.code = addressesCode ∧
      Writes markedModels addresses n ds g ∧
      markedModels.rendered .types (.str "Address") = "Address" ∧
      ds.types.map (·.name) = ["AddressRow"] ∧ ¬ ds.NamedByPart markedModels addresses := by
  have made : ∃ g, generate .typeScript ["src"] markedModels addresses = .ok g ∧
      g.code = addressesCode := ⟨_, rfl, rfl⟩
  have names : ∃ n ds, Naming.build markedModels addresses = .ok n ∧
      declarations markedModels n addresses = .ok ds ∧ ds.types.map (·.name) = ["AddressRow"] :=
    ⟨_, _, rfl, rfl, rfl⟩
  obtain ⟨g, hg, code⟩ := made
  obtain ⟨n, ds, writes⟩ := exists_writes hg
  obtain ⟨_, _, hn, hd, marked⟩ := names
  cases writes.naming.symm.trans hn
  cases writes.declarations.symm.trans hd
  have own : markedModels.rendered .types (.str "Address") = "Address" := rfl
  refine ⟨g, n, ds, hg, code, writes, own, marked, fun named => ?_⟩
  have types : ["AddressRow"] = [markedModels.rendered .types (.str "Address")] :=
    marked.symm.trans named.types
  rw [own] at types
  exact absurd types (by decide)

end Typewright.TypeScript
