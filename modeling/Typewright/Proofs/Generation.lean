import Typewright.Generation
import Typewright.Proofs.Pg.File
import Typewright.Proofs.TypeScript.File
import Typewright.Proofs.Zod.File

/-!
# What a generation is made of

A generation succeeds with a naming and the text of a file, whatever the target (`generate_eq_ok`).
It stops nowhere but while code is made (`generate_error`).

`TypeScript.Writes`, `Zod.Writes` and `Pg.Writes` say what a file is made of that a generation
handed out: its declarations behind the helper types that were met, its schemas behind an import,
and its tables behind a client.
-/

namespace Typewright

theorem whileGenerating_eq_ok {α : Type} {x : Outcome α} {a : α} :
    whileGenerating x = .ok a ↔ x = .ok a := by
  cases x with
  | error f => simp [whileGenerating]
  | ok b => simp [whileGenerating]

/-- A failed generation failed while code was made. -/
theorem generate_error {t : Target} {directory : List String} {c : Config} {d : Datamodel}
    {f : Failed} (h : generate t directory c d = .error f) : f.stage = .generating := by
  unfold generate whileGenerating at h
  split at h
  · cases h
  · cases h
    rfl

/-- A generation succeeds with a naming and the text of a file. -/
theorem generate_eq_ok {t : Target} {directory : List String} {c : Config} {d : Datamodel}
    {g : Generated} :
    generate t directory c d = .ok g ↔
      ∃ n code, Naming.build c d = .ok n ∧ t.file directory c n d = .ok code ∧
        handOut t c n d code = g := by
  rw [generate, whileGenerating_eq_ok, bind_eq_ok]
  constructor
  · rintro ⟨n, hn, h⟩
    obtain ⟨code, hc, h⟩ := map_eq_ok.1 h
    exact ⟨n, code, hn, hc, h⟩
  · rintro ⟨n, code, hn, hc, rfl⟩
    exact ⟨n, hn, map_eq_ok.2 ⟨code, hc, rfl⟩⟩

/-! ## What a generation handed out -/

theorem generate_figures {t : Target} {directory : List String} {c : Config} {d : Datamodel}
    {g : Generated} {n : Naming} (h : generate t directory c d = .ok g)
    (hn : Naming.build c d = .ok n) : g.figures = figures t d (t.usedHelpers c n d) := by
  obtain ⟨n', code, hn', _, rfl⟩ := generate_eq_ok.1 h
  cases hn.symm.trans hn'
  rfl

/-- A generation that wrote the declarations of a data model behind the helper types it met. -/
structure TypeScript.Writes (c : Config) (d : Datamodel) (n : Naming) (ds : Declarations)
    (g : Generated) : Prop where
  naming : Naming.build c d = .ok n
  declarations : declarations c n d = .ok ds
  /-- The file has nothing else but the header comment and configured code. -/
  code : ∃ before after, codeSection c .prefixCode = .ok before ∧
    codeSection c .suffixCode = .ok after ∧
    g.code = finish c (fileText (headerSection c ++ before ++ helperSection (usedHelpers c n d) ++
      ds.texts ++ after))

theorem TypeScript.exists_writes {directory : List String} {c : Config} {d : Datamodel}
    {g : Generated} (h : generate .typeScript directory c d = .ok g) :
    ∃ n ds, Writes c d n ds g := by
  obtain ⟨n, code, hn, hc, rfl⟩ := generate_eq_ok.1 h
  obtain ⟨ds, before, after, hd, hb, ha, rfl⟩ := file_eq_ok.1 hc
  exact ⟨n, ds, hn, hd, before, after, hb, ha, rfl⟩

/-- A generation that wrote the schemas of a data model as statements. -/
structure Zod.Writes (c : Config) (d : Datamodel) (n : Naming) (enums : List EnumSchema)
    (models : List ObjectSchema) (g : Generated) : Prop where
  naming : Naming.build c d = .ok n
  ofEnums : d.enums.mapM (enumSchema n) = .ok enums
  ofModels : d.models.mapM (objectSchema c n) = .ok models
  /-- The file has nothing else. -/
  code : g.code = finish c (fileText ((statements enums models).map Statement.text))

theorem Zod.exists_writes {directory : List String} {c : Config} {d : Datamodel} {g : Generated}
    (h : generate .zod directory c d = .ok g) : ∃ n enums models, Writes c d n enums models g := by
  obtain ⟨n, code, hn, hc, rfl⟩ := generate_eq_ok.1 h
  obtain ⟨enums, models, he, hm, rfl⟩ := file_eq_ok.1 hc
  exact ⟨n, enums, models, hn, he, hm, by rw [map_text_statements]; rfl⟩

/-- A generation that wrote the tables of a data model behind a client that imports their names. -/
structure Pg.Writes (directory : List String) (c : Config) (d : Datamodel) (n : Naming)
    (tables : List Table) (g : Generated) : Prop where
  naming : Naming.build c d = .ok n
  models : d.models.mapM (table n) = .ok tables
  /-- The file has nothing else but the header comment. -/
  code : ∃ specifier, typesModule directory c = .ok specifier ∧
    g.code = finish c (fileText (headerSection c ++
      [clientText c (tables.map (·.name)) specifier, namespaceText tables]))

theorem Pg.exists_writes {directory : List String} {c : Config} {d : Datamodel} {g : Generated}
    (h : generate .pg directory c d = .ok g) : ∃ n tables, Writes directory c d n tables g := by
  obtain ⟨n, code, hn, hc, rfl⟩ := generate_eq_ok.1 h
  obtain ⟨tables, specifier, ht, hs, rfl⟩ := file_eq_ok.1 hc
  exact ⟨n, tables, hn, ht, specifier, hs, rfl⟩

end Typewright
