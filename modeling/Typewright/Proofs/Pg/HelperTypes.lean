import Typewright.Proofs.Generation
import Typewright.Proofs.TypeScript.TopLevel

/-!
# Helper types beside imported types

A data-access file imports the types of the models, and declares helper types for each table, named
after the model with a word behind it. A naming keeps the names of the models apart. It does not look
at the helper types, so the name of a model may be that of a helper type of another one, which then
stands for it inside the namespace.

Helper types of different tables have different names, since no word ends with another one
(`helperName_inj`). So the types are told apart exactly if no model is named like a helper type:
`typeNames_nodup_iff` is the main statement, and `selections_share_name` a file in which they are
not.
-/

namespace Typewright.Pg

/-! ## The names of helper types -/

/-- What is put behind the name of a model for its helper types. -/
def helperWords : List String :=
  ["PK", "Columns", "Select", "OrderByInput", "WhereInput", "FindManyArgs"]

/-- The names of the helper types of a table. -/
def Table.helperNames (t : Table) : List String := helperWords.map (t.name ++ ·)

/-- The names of the types of a file: those of the helper types, and those that are imported. -/
def typeNames (tables : List Table) : List String :=
  tables.flatMap Table.helperNames ++ tables.map (·.name)

/-- Whether a line starts the declaration of a type. -/
def declaresType (line : String) : Bool := "export type ".toList.isPrefixOf line.toList

/-- The types that a table declares are its helper types, in order. -/
def Table.DeclaresHelpers (t : Table) : Prop :=
  List.Forall₂ (fun name line => ∃ type, line = "export type " ++ name ++ " = " ++ type)
    t.helperNames (t.typeLines.filter declaresType)

theorem declaresHelpers (t : Table) : t.DeclaresHelpers := by
  have lines : t.typeLines.filter declaresType =
      ["export type " ++ t.name ++ "PK = " ++ t.keyType ++ ";",
       "export type " ++ t.name ++ "Columns = " ++ t.columnsType ++ ";",
       "export type " ++ t.name ++ "Select = \x7b",
       "export type " ++ t.name ++ "OrderByInput = \x7b",
       "export type " ++ t.name ++ "WhereInput = \x7b",
       "export type " ++ t.name ++ "FindManyArgs = \x7b"] := by
    simp [Table.typeLines, declaresType]
  rw [Table.DeclaresHelpers, lines]
  refine .cons ⟨t.keyType ++ ";", ?_⟩ (.cons ⟨t.columnsType ++ ";", ?_⟩ (.cons ⟨"\x7b", ?_⟩
    (.cons ⟨"\x7b", ?_⟩ (.cons ⟨"\x7b", ?_⟩ (.cons ⟨"\x7b", ?_⟩ .nil)))))
  all_goals exact String.toList_inj.1 (by simp)

/-- A helper type tells the table and the word that it is named after. -/
theorem helperName_inj {s s' w w' : String} (hw : w ∈ helperWords) (hw' : w' ∈ helperWords) :
    s ++ w = s' ++ w' ↔ s = s' ∧ w = w' := by
  constructor
  · intro same
    have ends : ∀ w ∈ helperWords, ∀ w' ∈ helperWords, w.toList <:+ w'.toList → w = w' := by
      decide +kernel
    have first : w.toList <:+ (s ++ w).toList := by simp
    have second : w'.toList <:+ (s ++ w).toList := by simp [same]
    have words : w = w' := by
      obtain h | h := List.suffix_or_suffix_of_suffix first second
      · exact ends w hw w' hw' h
      · exact (ends w' hw' w hw h).symm
    subst words
    exact ⟨String.append_left_inj w |>.1 same, rfl⟩
  · rintro ⟨rfl, rfl⟩
    rfl

theorem mem_helperNames {t : Table} {name : String} :
    name ∈ t.helperNames ↔ ∃ w ∈ helperWords, name = t.name ++ w := by
  rw [Table.helperNames, List.mem_map]
  simp only [eq_comm]

theorem nodup_helperNames (t : Table) : t.helperNames.Nodup := by
  have words : helperWords.Nodup := by decide
  exact words.map fun w w' => (String.append_right_inj t.name).1

/-- No two helper types have one name if no two tables do. -/
theorem nodup_flatMap_helperNames {tables : List Table} (names : (tables.map (·.name)).Nodup) :
    (tables.flatMap Table.helperNames).Nodup := by
  rw [List.nodup_flatMap]
  refine ⟨fun t _ => nodup_helperNames t, (List.pairwise_map.1 names).imp fun {t u} other => ?_⟩
  refine List.disjoint_left.2 fun name ht hu => ?_
  obtain ⟨w, hw, rfl⟩ := mem_helperNames.1 ht
  obtain ⟨w', hw', same⟩ := mem_helperNames.1 hu
  exact other ((helperName_inj hw hw').1 same).1

/-- All types are told apart exactly if no table is named like a helper type. -/
theorem nodup_typeNames {tables : List Table} (names : (tables.map (·.name)).Nodup) :
    (typeNames tables).Nodup ↔
      ∀ s ∈ tables.map (·.name), ∀ s' ∈ tables.map (·.name), ∀ w ∈ helperWords, s' ≠ s ++ w := by
  rw [typeNames, List.nodup_append]
  constructor
  · rintro ⟨_, _, apart⟩ s hs s' hs' w hw rfl
    obtain ⟨t, ht, rfl⟩ := List.mem_map.1 hs
    have helper : t.name ++ w ∈ tables.flatMap Table.helperNames :=
      List.mem_flatMap.2 ⟨t, ht, mem_helperNames.2 ⟨w, hw, rfl⟩⟩
    exact apart _ helper _ hs' rfl
  · intro apart
    refine ⟨nodup_flatMap_helperNames names, names, ?_⟩
    rintro a ha b hb rfl
    obtain ⟨t, ht, ha⟩ := List.mem_flatMap.1 ha
    obtain ⟨w, hw, rfl⟩ := mem_helperNames.1 ha
    exact apart _ (List.mem_map_of_mem ht) _ hb w hw rfl

/-! ## Files -/

section Files

variable {c : Config} {n : Naming} {d : Datamodel} {tables : List Table}

/-- Models of different names with something to show have tables under their rendered names. -/
theorem map_name_tables (finds : n.Finds c d) (shown : ∀ v ∈ d.names .models, v.display ≠ "")
    (distinct : ((d.names .models).map Value.key?).Nodup)
    (made : d.models.mapM (table n) = .ok tables) :
    tables.map (·.name) = (d.names .models).map (c.rendered .models) := by
  have each : List.Forall₂ (fun m t => c.rendered .models m.name = t.name) d.models tables := by
    have both := List.forall₂_and_left _ _ |>.2
      ⟨fun m hm => List.mem_map_of_mem (f := (·.name)) hm, mapM_eq_ok.1 made⟩
    refine both.imp fun m t h => ?_
    obtain ⟨hm, ht⟩ := h
    have found := Naming.declarationName_eq_ok.2 (.inl
      ⟨finds.get_of_distinct (p := .models) distinct hm, affixed_ne_empty_of_display (shown _ hm)⟩)
    exact Except.ok.inj (found.symm.trans (table_eq_ok.1 ht).1)
  have mapped := List.forall₂_map_left_iff.2 (List.forall₂_map_right_iff.2 each)
  rw [List.forall₂_eq_eq_eq] at mapped
  rw [Datamodel.names, List.map_map]
  exact mapped.symm

theorem nodup_map_name_tables (finds : n.Finds c d)
    (distinct : ((d.names .models).map Value.key?).Nodup)
    (made : d.models.mapM (table n) = .ok tables) : (tables.map (·.name)).Nodup := by
  rw [Datamodel.names, List.map_map] at distinct
  refine (TypeScript.nodup_map_iff_of_forall₂ (fun m t m' t' h h' => ?_) (mapM_eq_ok.1 made)).1
    distinct
  exact (finds.declarationName_inj (table_eq_ok.1 h).1 (table_eq_ok.1 h').1).symm

/-- The data-access file of models with different names imports them under their rendered names and
declares helper types for each. All of these types have different names if and only if no model is
rendered as another one with the word of a helper type behind it. -/
theorem typeNames_nodup_iff {directory : List String} {c : Config} {d : Datamodel} {g : Generated}
    (shown : ∀ v ∈ d.names .models, v.display ≠ "")
    (distinct : ((d.names .models).map Value.key?).Nodup)
    (h : generate .pg directory c d = .ok g) :
    ∃ n tables, Writes directory c d n tables g ∧
      tables.map (·.name) = (d.names .models).map (c.rendered .models) ∧
      (∀ t ∈ tables, t.DeclaresHelpers) ∧
      ((typeNames tables).Nodup ↔ ∀ v ∈ d.names .models, ∀ v' ∈ d.names .models, ∀ w ∈ helperWords,
        c.rendered .models v' ≠ c.rendered .models v ++ w) := by
  obtain ⟨n, tables, writes⟩ := exists_writes h
  have finds := Naming.build_finds writes.naming
  have names := map_name_tables finds shown distinct writes.models
  refine ⟨n, tables, writes, names, fun t _ => declaresHelpers t, ?_⟩
  rw [nodup_typeNames (nodup_map_name_tables finds distinct writes.models), names]
  simp only [List.forall_mem_map]

/-- The types in the data-access file of users and posts have different names. -/
theorem journal_typeNames_nodup :
    (∀ v ∈ Datamodel.journal.names .models, v.display ≠ "") ∧
      ((Datamodel.journal.names .models).map Value.key?).Nodup ∧
      ∃ g n tables, generate .pg ["src"] Config.default Datamodel.journal = .ok g ∧
        Writes ["src"] Config.default Datamodel.journal n tables g ∧
        tables.map (·.name) = ["User", "Post"] ∧ (∀ t ∈ tables, t.DeclaresHelpers) ∧
        (typeNames tables).Nodup := by
  have shown : ∀ v ∈ Datamodel.journal.names .models, v.display ≠ "" := by decide
  have distinct : ((Datamodel.journal.names .models).map Value.key?).Nodup := by decide
  have made : ∃ g, generate .pg ["src"] Config.default Datamodel.journal = .ok g := ⟨_, rfl⟩
  obtain ⟨g, hg⟩ := made
  obtain ⟨n, tables, writes, names, declares, nodup_iff⟩ := typeNames_nodup_iff shown distinct hg
  exact ⟨shown, distinct, g, n, tables, hg, writes, names, declares, nodup_iff.2 (by decide)⟩

/-- Users, and what is selected of them. -/
def selections : Datamodel where
  models :=
    [{ name := .str "User", dbName := .null, documentation := .null
       fields := [{ Datamodel.plainField "id" .scalar "Int" with isId := .bool true }] },
     { name := .str "UserSelect", dbName := .null, documentation := .null
       fields := [{ Datamodel.plainField "id" .scalar "Int" with isId := .bool true }] }]
  enums := []
  types := []

/-- A selection of users is imported under the name of a helper type of users. -/
theorem selections_share_name :
    (∀ v ∈ selections.names .models, v.display ≠ "") ∧
      ((selections.names .models).map Value.key?).Nodup ∧
      ∃ g n tables, generate .pg ["src"] Config.default selections = .ok g ∧
        Writes ["src"] Config.default selections n tables g ∧
        "UserSelect" ∈ tables.map (·.name) ∧ "UserSelect" ∈ tables.flatMap Table.helperNames ∧
        ¬ (typeNames tables).Nodup := by
  have made : ∃ g, generate .pg ["src"] Config.default selections = .ok g := ⟨_, rfl⟩
  have named : ∃ n tables, Naming.build Config.default selections = .ok n ∧
      selections.models.mapM (table n) = .ok tables ∧
      tables.map (·.name) = ["User", "UserSelect"] := ⟨_, _, rfl, rfl, rfl⟩
  obtain ⟨g, hg⟩ := made
  obtain ⟨n, tables, writes⟩ := exists_writes hg
  obtain ⟨_, _, hn, ht, names⟩ := named
  cases writes.naming.symm.trans hn
  cases writes.models.symm.trans ht
  have model : "UserSelect" ∈ tables.map (·.name) := by simp [names]
  have helper : "UserSelect" ∈ tables.flatMap Table.helperNames := by
    obtain ⟨t, ht, user⟩ := List.mem_map.1 (by simp [names] : "User" ∈ tables.map (·.name))
    refine List.mem_flatMap.2 ⟨t, ht, mem_helperNames.2 ⟨"Select", by decide, ?_⟩⟩
    rw [user]
    rfl
  refine ⟨by decide, by decide, g, n, tables, hg, writes, model, helper, fun nodup => ?_⟩
  exact (List.nodup_append.1 nodup).2.2 _ helper _ model rfl

end Files

end Typewright.Pg
