import Typewright.Proofs.Layout.Sections
import Typewright.Proofs.Pg.File
import Typewright.Proofs.Pg.Import

/-!
# Data-access sections are tidy

The text of a table is made of lines, most of them with the name of the table inside, and each ends
with something that is no blank whatever that name is. Empty lines are written between the queries
of a table and before each table, and nowhere two of them meet.
-/

namespace Typewright.Pg

open Layout

/-! ## Tables -/

theorem oneLine_unionOfKeys {names : List Value} (h : ∀ v ∈ names, v.IsOneLine) :
    OneLine (unionOfKeys names) := by
  rw [unionOfKeys]
  split
  · decide
  · refine oneLine_intercalate (by decide) fun s hs => ?_
    obtain ⟨v, hv, rfl⟩ := List.mem_map.1 hs
    exact oneLine_append.2 ⟨oneLine_append.2 ⟨by decide, (h v hv).display⟩, by decide⟩

/-- A table that is written without line feeds of its own. -/
structure Table.IsOneLine (t : Table) : Prop where
  name : OneLine t.name
  tableName : t.tableName.IsOneLine
  primaryKey : ∀ v ∈ t.primaryKey, v.IsOneLine
  columns : ∀ v ∈ t.columns, v.IsOneLine

namespace Table

variable {t : Table}

theorem oneLine_pick (hn : OneLine t.name) {names : List Value} (h : ∀ v ∈ names, v.IsOneLine) :
    OneLine (t.pick names) := by
  simp only [pick, oneLine_append]
  exact ⟨⟨⟨⟨by decide, hn⟩, by decide⟩, oneLine_unionOfKeys h⟩, by decide⟩

/-- Every line of the types and queries of a table. -/
theorem IsOneLine.isLine_of_mem (h : t.IsOneLine) : ∀ l ∈ t.typeLines ++ t.findUniqueLines ++
    t.findManyLines ++ t.createLines ++ t.updateLines ++ t.deleteLines, IsLine l := by
  have name := h.name
  have key : OneLine t.keyType := by
    rw [keyType]
    split
    · decide
    · exact oneLine_pick name h.primaryKey
  have columns : OneLine t.columnsType := oneLine_pick name h.columns
  simp only [typeLines, findUniqueLines, findManyLines, createLines, updateLines, deleteLines,
    List.forall_mem_append, List.forall_mem_cons]
  and_intros
  -- A line is taken apart at the names inside, and ends with something that is written out.
  all_goals
    repeat' first
      | with_reducible assumption
      | with_reducible apply IsLine.append
      | with_reducible apply OneLine.append
      | with_reducible apply isLine_ofList
      | with_reducible apply oneLine_ofList
      | rfl
      | decide

/-- The text of a table stands. -/
theorem IsOneLine.stands (h : t.IsOneLine) : Stands t.text := by
  have opening : Stands ("export namespace " ++ t.name ++ " \x7b") :=
    (IsLine.append (oneLine_append.2 ⟨by decide, h.name⟩) (by decide)).stands
  have constant : Stands ("  const table = " ++ t.tableName.quoted ++ ";") :=
    (IsLine.append (oneLine_append.2 ⟨by decide, h.tableName.quoted.oneLine⟩) (by decide)).stands
  have lined (ls : List String) (some_line : ls ≠ []) (sub : ls ⊆ t.typeLines ++ t.findUniqueLines ++
      t.findManyLines ++ t.createLines ++ t.updateLines ++ t.deleteLines) : Lined ls :=
    lined_of_forall some_line fun l hl => (h.isLine_of_mem l (sub hl)).stands
  have queries : Lined (t.findUniqueLines ++ "" :: (t.findManyLines ++ "" :: (t.createLines ++
      "" :: (t.updateLines ++ "" :: (t.deleteLines ++ ["\x7d"]))))) :=
    (lined t.findUniqueLines (by simp [findUniqueLines]) fun l hl => by simp [hl]).apart <|
      (lined t.findManyLines (by simp [findManyLines]) fun l hl => by simp [hl]).apart <|
      (lined t.createLines (by simp [createLines]) fun l hl => by simp [hl]).apart <|
      (lined t.updateLines (by simp [updateLines]) fun l hl => by simp [hl]).apart <|
      (lined t.deleteLines (by simp [deleteLines]) fun l hl => by simp [hl]).append (by decide)
  have whole := (lined t.typeLines (by simp [typeLines]) fun l hl => by simp [hl]).apart
    (.cons opening ((lined_singleton constant).apart queries))
  rw [text, linesText]
  simpa only [Lined, List.append_assoc, List.cons_append, List.nil_append] using whole

end Table

/-! ## The client and the namespace -/

/-- The client stands, with or without an import of types. -/
theorem stands_client {c : Config} (settings : c.Unspaced) {names : List String}
    (hn : ∀ s ∈ names, OneLine s) {specifier : String} (hs : OneLine specifier) :
    Stands (clientText c names specifier) := by
  have imports : Lined (["import \"dotenv/config\";", "import \x7b Pool \x7d from \"pg\";"] ++
      importLines names specifier) := by
    rw [importLines]
    split
    · decide
    · refine Lined.append (by decide) (lined_singleton (IsLine.append ?_ (by decide)).stands)
      simp only [oneLine_append]
      exact ⟨⟨⟨by decide, oneLine_intercalate (by decide) hn⟩, by decide⟩,
        (isLine_doubleQuoted hs).oneLine⟩
  have env : OneLine (c.value .pgEnvVar).display :=
    (settings.settings .pgEnvVar rfl (by decide)).display
  have address : Stands ("  connectionString: process.env." ++ (c.value .pgEnvVar).display ++ "!,") :=
    (IsLine.append (oneLine_append.2 ⟨by decide, env⟩) (by decide)).stands
  exact imports.apart (.cons (by decide) (.cons address (by decide)))

theorem lined_toolLines : Lined toolLines := by
  rw [toolLines]
  repeat' first
    | with_reducible apply Lined.gap
    | with_reducible apply lined_singleton
    | with_reducible apply Lined.cons
    | with_reducible apply IsLine.stands
    | with_reducible apply isLine_ofList
    | rfl
    | decide

/-- The namespace stands if its tables do. -/
theorem stands_namespace {tables : List Table} (h : ∀ t ∈ tables, Stands t.text) :
    Stands (namespaceText tables) := by
  have tools : Lined (["export namespace PG \x7b"] ++ toolLines) :=
    Lined.append (by decide) lined_toolLines
  have inner : Lined (["export namespace PG \x7b"] ++ toolLines ++
      tables.flatMap fun t => ["", indent 2 t.text]) :=
    tools.flatMap fun t ht => stands_indent 2 (h t ht)
  have closing : Lined ["\x7d"] := by decide
  rw [namespaceText, linesText]
  exact inner.append closing

/-! ## Sections -/

section Sections

variable {c : Config} {n : Naming} {d : Datamodel}

theorem isOneLine_of_table (words : d.Unspaced) (names : n.Trimmed) {m : Model} (hm : m ∈ d.models)
    {t : Table} (h : table n m = .ok t) : t.IsOneLine := by
  obtain ⟨hn, htable, hkey, found, hf, hcolumns⟩ := table_eq_ok.1 h
  have field {f : Field} (hfm : f ∈ m.fields) : f.name.IsOneLine :=
    (words.fields m (List.mem_append_left _ hm) f hfm).isOneLine
  refine ⟨(names.declarationName hn).oneLine, ?_, ?_, ?_⟩
  · rw [htable]
    exact words.tableName hm
  · rw [hkey]
    intro v hv
    obtain ⟨f, hfm, rfl⟩ := List.mem_map.1 hv
    exact field (List.mem_of_mem_filter hfm)
  · rw [hcolumns]
    intro v hv
    obtain ⟨o, ho, hov⟩ := List.mem_filterMap.1 hv
    obtain ⟨f, hfm, made⟩ := mapM_ok_mem_result hf o ho
    obtain ⟨b, _, rfl⟩ := column?_eq_ok.1 made
    cases b with
    | true =>
        cases hov
        exact field hfm
    | false => cases hov

/-- Every section of a data-access file stands. -/
theorem stands_of_sections {directory : List String} (seen : ∀ part ∈ directory, OneLine part)
    (words : d.Unspaced) (settings : c.Unspaced) (names : n.Trimmed) {parts : List String}
    (h : sections directory c n d = .ok parts) : ∀ s ∈ parts, Stands s := by
  obtain ⟨tables, ht, h⟩ := bind_eq_ok.1 h
  obtain ⟨specifier, hs, h⟩ := bind_eq_ok.1 h
  cases pure_eq_ok.1 h
  have each : ∀ t ∈ tables, t.IsOneLine := by
    intro t hmem
    obtain ⟨m, mem, made⟩ := mapM_ok_mem_result ht t hmem
    exact isOneLine_of_table words names mem made
  intro s hmem
  rw [List.mem_append, List.mem_cons, List.mem_singleton] at hmem
  obtain header | rfl | rfl := hmem
  · exact stands_headerSection header
  · refine stands_client settings (fun name hname => ?_)
      (oneLine_typesModule settings seen (ofMisuse_eq_ok.1 hs))
    obtain ⟨t, hmem, rfl⟩ := List.mem_map.1 hname
    exact (each t hmem).name
  · exact stands_namespace fun t hmem => (each t hmem).stands

end Sections

end Typewright.Pg
