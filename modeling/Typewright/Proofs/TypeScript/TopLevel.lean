import Typewright.Proofs.Naming.Lookup
import Typewright.Proofs.TypeScript.Helpers

/-!
# Names at the top level of a file

A file declares helper types, enums, models and composite types, each under one name (`topLevel`).
A naming keeps different names apart, and so the declarations of different names. It does not see
that a declaration comes twice, that a model and a composite type of one name are both declared as
the model, or that something is declared as a helper type is. `Distinguished` says that nothing of
this is the case, and the main statement, `topLevel_nodup_iff`, that the names at the top level are
pairwise distinct exactly then. `place_declared_twice` is a file in which they are not.
-/

namespace Typewright.TypeScript

/-! ## Names that are declared -/

/-- The names of declarations, in the order of the file. -/
def Declarations.names (ds : Declarations) : List String :=
  ds.enums.map (·.name) ++ (ds.models ++ ds.types).map (·.name)

/-- The names that a file declares: those of the helper types in use, and those of its
declarations. -/
def topLevel (used : List Helper) (ds : Declarations) : List String :=
  (inOrder used).map Helper.name ++ ds.names

/-- What keeps the names of a file apart. -/
structure Distinguished (c : Config) (d : Datamodel) : Prop where
  /-- No two enums have one name. -/
  enums : ((d.names .enums).map Value.key?).Nodup
  /-- No two models or composite types have one name. -/
  models : ((d.names .models ++ d.names .types).map Value.key?).Nodup
  /-- Nothing is rendered as a helper type that is the type of a scalar field. -/
  helpers : ∀ m ∈ d.models ++ d.types, ∀ f ∈ m.fields, f.kind = .scalar →
    ∀ h : Helper, scalarType c f.type = .ok h.name → ∀ p, ∀ v ∈ d.names p, c.rendered p v ≠ h.name

/-! ## Lists that correspond -/

/-- Lists that correspond have the same repetitions, where the images of items agree when those of
the items they correspond to do. -/
theorem nodup_map_iff_of_forall₂ {α β γ δ : Type} {R : α → β → Prop} {f : α → γ} {g : β → δ}
    {as : List α} {bs : List β}
    (agree : ∀ a b a' b', R a b → R a' b' → (f a = f a' ↔ g b = g b'))
    (h : List.Forall₂ R as bs) : (as.map f).Nodup ↔ (bs.map g).Nodup := by
  induction h with
  | nil => simp
  | @cons a b as bs hab h ih =>
      -- The first image comes again among the others on one side if it does on the other.
      have mem : f a ∈ as.map f ↔ g b ∈ bs.map g := by
        clear ih
        induction h with
        | nil => simp
        | cons hab' _ ih =>
            rw [List.map_cons, List.map_cons, List.mem_cons, List.mem_cons, ih,
              agree _ _ _ _ hab hab']
      rw [List.map_cons, List.map_cons, List.nodup_cons, List.nodup_cons, mem, ih]

theorem nodup_helpers (used : List Helper) : ((inOrder used).map Helper.name).Nodup := by
  have injective : Function.Injective Helper.name := by
    intro g h same
    rw [← Option.some_inj, ← Helper.ofName?_name g, same, Helper.ofName?_name h]
  have all : Helper.all.Nodup := by decide
  exact (all.filter _).map injective

/-! ## Distinct names -/

section Names

variable {c : Config} {n : Naming} {d : Datamodel} {ds : Declarations}

/-- Declarations of models and composite types have distinct names if their own are distinct. -/
theorem nodup_models_iff (finds : n.Finds c d) (made : declarations c n d = .ok ds) :
    ((ds.models ++ ds.types).map (·.name)).Nodup ↔
      ((d.names .models ++ d.names .types).map Value.key?).Nodup := by
  have names : (d.names .models ++ d.names .types).map Value.key? =
      (d.models ++ d.types).map fun m => m.name.key? := by
    rw [Datamodel.names, Datamodel.names, ← List.map_append, List.map_map]
    rfl
  rw [names]
  refine (nodup_map_iff_of_forall₂ (fun m decl m' decl' h h' => ?_)
    (mapM_eq_ok.1 (mapM_models_types made))).symm
  obtain ⟨_, _, hn⟩ := modelDeclaration_eq_ok.1 h
  obtain ⟨_, _, hn'⟩ := modelDeclaration_eq_ok.1 h'
  exact (finds.declarationName_inj hn hn').symm

theorem nodup_enums_iff (finds : n.Finds c d) (made : declarations c n d = .ok ds) :
    (ds.enums.map (·.name)).Nodup ↔ ((d.names .enums).map Value.key?).Nodup := by
  obtain ⟨he, _, _⟩ := declarations_eq_ok.1 made
  have names : (d.names .enums).map Value.key? = d.enums.map fun e => e.name.key? := by
    rw [Datamodel.names, List.map_map]
    rfl
  rw [names]
  refine (nodup_map_iff_of_forall₂ (fun e decl e' decl' h h' => ?_) (mapM_eq_ok.1 he)).symm
  obtain ⟨_, hn, _⟩ := enumDeclaration_eq_ok.1 h
  obtain ⟨_, hn', _⟩ := enumDeclaration_eq_ok.1 h'
  constructor
  · intro same
    exact Option.some.inj (NameMap.get_unique same hn hn')
  · intro same
    rw [same] at hn
    exact (finds.apart (p := .enums) (q := .enums) hn hn').2

theorem get_of_mem_enums (made : declarations c n d = .ok ds) {r : String}
    (hr : r ∈ ds.enums.map (·.name)) : ∃ v, (n.part .enums).get v = .ok (some r) := by
  obtain ⟨he, _, _⟩ := declarations_eq_ok.1 made
  obtain ⟨decl, hdecl, rfl⟩ := List.mem_map.1 hr
  obtain ⟨e, _, h⟩ := mapM_ok_mem_result he decl hdecl
  exact ⟨e.name, (enumDeclaration_eq_ok.1 h).2.1⟩

theorem get_of_mem_models (made : declarations c n d = .ok ds) {r : String}
    (hr : r ∈ (ds.models ++ ds.types).map (·.name)) :
    ∃ p v, p ≠ .enums ∧ (n.part p).get v = .ok (some r) := by
  obtain ⟨decl, hdecl, rfl⟩ := List.mem_map.1 hr
  obtain ⟨m, _, h⟩ := mapM_ok_mem_result (mapM_models_types made) decl hdecl
  obtain ⟨p, hp, hg⟩ := Naming.exists_part_of_declarationName (modelDeclaration_eq_ok.1 h).2.2
  exact ⟨p, m.name, hp, hg⟩

/-- No enum is declared under the name of a model or composite type. -/
theorem disjoint_enums (finds : n.Finds c d) (made : declarations c n d = .ok ds) :
    ∀ a ∈ ds.enums.map (·.name), ∀ b ∈ (ds.models ++ ds.types).map (·.name), a ≠ b := by
  rintro a ha b hb rfl
  obtain ⟨v, hv⟩ := get_of_mem_enums made ha
  obtain ⟨p, w, hp, hw⟩ := get_of_mem_models made hb
  exact hp (finds.apart hv hw).1.symm

theorem exists_rendered (finds : n.Finds c d) (made : declarations c n d = .ok ds) :
    ∀ r ∈ ds.names, ∃ p, ∃ v ∈ d.names p, r = c.rendered p v := by
  intro r hr
  have found : ∃ p v, (n.part p).get v = .ok (some r) := by
    cases List.mem_append.1 hr with
    | inl h =>
        obtain ⟨v, hv⟩ := get_of_mem_enums made h
        exact ⟨_, v, hv⟩
    | inr h =>
        obtain ⟨p, v, _, hv⟩ := get_of_mem_models made h
        exact ⟨p, v, hv⟩
  obtain ⟨p, v, hv⟩ := found
  obtain ⟨w, hw, _, hr⟩ := finds.name hv
  exact ⟨p, w, hw, hr⟩

/-- Where names are distinct, a model or composite type is declared under its rendered name. -/
theorem declarationName_of_distinct (finds : n.Finds c d)
    (distinct : ((d.names .models ++ d.names .types).map Value.key?).Nodup) {p : Part} {v : Value}
    (hp : p ≠ .enums) (hv : v ∈ d.names p) (shown : c.rendered p v ≠ "") :
    n.declarationName v = .ok (c.rendered p v) := by
  rw [List.map_append, List.nodup_append] at distinct
  obtain ⟨models, types, disjoint⟩ := distinct
  rw [Naming.declarationName_eq_ok]
  cases p with
  | enums => exact absurd rfl hp
  | models => exact Or.inl ⟨finds.get_of_distinct models hv, shown⟩
  | types =>
      -- The models are asked first, and have nothing under a name of a composite type.
      have ht := finds.get_of_distinct types hv
      obtain ⟨k, hk, _⟩ := NameMap.get_eq_ok.1 ht
      refine Or.inr ⟨Or.inl (NameMap.get_eq_ok.2 ⟨k, hk, ?_⟩), ht⟩
      cases hf : n.models.find? k with
      | none => rfl
      | some r =>
          obtain ⟨w, hw, same, _⟩ := finds.name (p := .models) (NameMap.get_eq_ok.2 ⟨k, hk, hf⟩)
          exact absurd same (disjoint _ (List.mem_map_of_mem hw) _ (List.mem_map_of_mem hv))

/-- Where names are distinct, everything with something to show is declared under its rendered
name. -/
theorem rendered_mem_names (finds : n.Finds c d) (made : declarations c n d = .ok ds)
    (enums : ((d.names .enums).map Value.key?).Nodup)
    (models : ((d.names .models ++ d.names .types).map Value.key?).Nodup) {p : Part} {v : Value}
    (hv : v ∈ d.names p) (shown : c.rendered p v ≠ "") : c.rendered p v ∈ ds.names := by
  have declared (hp : p ≠ .enums) {m : Model} (hm : m ∈ d.models ++ d.types) (name : m.name = v) :
      c.rendered p v ∈ (ds.models ++ ds.types).map (·.name) := by
    obtain ⟨decl, hdecl, h⟩ := mapM_ok_mem (mapM_models_types made) m hm
    obtain ⟨_, _, hn⟩ := modelDeclaration_eq_ok.1 h
    rw [name, declarationName_of_distinct finds models hp hv shown] at hn
    rw [Except.ok.inj hn]
    exact List.mem_map_of_mem hdecl
  rw [Declarations.names, List.mem_append]
  cases p with
  | enums =>
      obtain ⟨he, _, _⟩ := declarations_eq_ok.1 made
      obtain ⟨e, hmem, rfl⟩ := List.mem_map.1 hv
      obtain ⟨decl, hdecl, h⟩ := mapM_ok_mem he e hmem
      have hn : n.enums.get e.name = _ := finds.get_of_distinct enums hv
      rw [(enumDeclaration_eq_ok.1 h).2.1] at hn
      rw [← Option.some.inj (Except.ok.inj hn)]
      exact Or.inl (List.mem_map_of_mem hdecl)
  | models =>
      obtain ⟨m, hm, name⟩ := List.mem_map.1 hv
      exact Or.inr (declared (by decide) (List.mem_append_left _ hm) name)
  | types =>
      obtain ⟨m, hm, name⟩ := List.mem_map.1 hv
      exact Or.inr (declared (by decide) (List.mem_append_right _ hm) name)

/-- The names at the top level are distinct exactly if the data model keeps them apart. -/
theorem nodup_topLevel_iff (finds : n.Finds c d) (made : declarations c n d = .ok ds) :
    (topLevel (usedHelpers c n d) ds).Nodup ↔ Distinguished c d := by
  have names : ds.names.Nodup ↔ ((d.names .enums).map Value.key?).Nodup ∧
      ((d.names .models ++ d.names .types).map Value.key?).Nodup := by
    rw [Declarations.names, List.nodup_append, nodup_enums_iff finds made,
      nodup_models_iff finds made]
    constructor
    · rintro ⟨enums, models, _⟩
      exact ⟨enums, models⟩
    · rintro ⟨enums, models⟩
      exact ⟨enums, models, disjoint_enums finds made⟩
  rw [topLevel, List.nodup_append, names]
  constructor
  · rintro ⟨_, ⟨enums, models⟩, apart⟩
    refine ⟨enums, models, fun m hm f hf hk h ht p v hv same => ?_⟩
    -- What is rendered as the helper type is declared, and so is the helper type.
    have used : h ∈ usedHelpers c n d := (mem_usedHelpers made).2 ⟨m, hm, f, hf, hk, ht⟩
    have shown : c.rendered p v ≠ "" := by
      rw [same]
      cases h <;> decide
    exact apart _ (List.mem_map_of_mem (mem_inOrder.2 used)) _
      (rendered_mem_names finds made enums models hv shown) same.symm
  · rintro ⟨enums, models, helpers⟩
    refine ⟨nodup_helpers _, ⟨enums, models⟩, ?_⟩
    rintro a ha b hb rfl
    obtain ⟨h, hh, rfl⟩ := List.mem_map.1 ha
    obtain ⟨m, hm, f, hf, hk, ht⟩ := (mem_usedHelpers made).1 (mem_inOrder.1 hh)
    obtain ⟨p, v, hv, same⟩ := exists_rendered finds made _ hb
    exact helpers m hm f hf hk h ht p v hv same.symm

end Names

/-! ## Files -/

/-- The names at the top level of a file are pairwise distinct exactly if no enum and no model or
composite type comes twice, and nothing is rendered as a helper type in use. -/
theorem topLevel_nodup_iff {directory : List String} {c : Config} {d : Datamodel} {g : Generated}
    (h : generate .typeScript directory c d = .ok g) :
    ∃ n ds, Writes c d n ds g ∧
      ((topLevel (usedHelpers c n d) ds).Nodup ↔ Distinguished c d) := by
  obtain ⟨n, ds, writes⟩ := exists_writes h
  exact ⟨n, ds, writes, nodup_topLevel_iff (Naming.build_finds writes.naming) writes.declarations⟩

/-- The names of users, their posts and places are distinct. -/
theorem journal_topLevel_nodup_iff :
    ∃ g n ds, generate .typeScript ["src"] Config.default Datamodel.journal = .ok g ∧
      Writes Config.default Datamodel.journal n ds g ∧
      ((topLevel (usedHelpers Config.default n Datamodel.journal) ds).Nodup ↔
        Distinguished Config.default Datamodel.journal) := by
  have made : ∃ g, generate .typeScript ["src"] Config.default Datamodel.journal = .ok g :=
    ⟨_, rfl⟩
  obtain ⟨g, hg⟩ := made
  obtain ⟨n, ds, writes, distinct⟩ := topLevel_nodup_iff hg
  exact ⟨g, n, ds, hg, writes, distinct⟩

/-- A model and a composite type of one name. -/
def places : Datamodel where
  models := [{ name := .str "Place", fields := [], dbName := .null, documentation := .null }]
  enums := []
  types := [{ name := .str "Place", fields := [], dbName := .null, documentation := .null }]

/-- A configuration that marks the names of composite types. -/
def markedTypes : Config := Config.default.set .typePrefix (.str "T")

/-- The file of places. -/
def placesCode : String :=
  "// This file was auto-generated by schema-typegen\n\n" ++
    "export interface Place \x7b\n\x7d\n\nexport interface Place \x7b\n\x7d\n"

/-- A model and a composite type that only their affixes tell apart are declared under one name. -/
theorem place_declared_twice :
    ∃ g n ds, generate .typeScript ["src"] markedTypes places = .ok g ∧
      g.code = placesCode ∧
      Writes markedTypes places n ds g ∧
      topLevel (usedHelpers markedTypes n places) ds = ["Place", "Place"] ∧
      ¬ (topLevel (usedHelpers markedTypes n places) ds).Nodup := by
  have made : ∃ g, generate .typeScript ["src"] markedTypes places = .ok g ∧
      g.code = placesCode := ⟨_, rfl, rfl⟩
  have names : ∃ n ds, Naming.build markedTypes places = .ok n ∧
      declarations markedTypes n places = .ok ds ∧
      topLevel (usedHelpers markedTypes n places) ds = ["Place", "Place"] := ⟨_, _, rfl, rfl, rfl⟩
  obtain ⟨g, hg, code⟩ := made
  obtain ⟨n, ds, writes⟩ := exists_writes hg
  obtain ⟨_, _, hn, hd, twice⟩ := names
  cases writes.naming.symm.trans hn
  cases writes.declarations.symm.trans hd
  refine ⟨g, n, ds, hg, code, writes, twice, ?_⟩
  rw [twice]
  decide

end Typewright.TypeScript
