import Typewright.Proofs.Generation
import Typewright.Proofs.Layout.Assembly
import Typewright.Proofs.Naming

/-!
# How a TypeScript file is put together

A file is put together from texts that may be empty (`Parts`): the header comment, code from the
configuration, the helper types, each declaration, and again code from the configuration. An empty
text should be no section. It is none where nothing is configured or in use, but code that is
nothing else than line feeds is a section, although nothing is left of it. So a file is made of the
texts that are not empty exactly if there is no such code (`code_eq_iff`).
-/

namespace Typewright.TypeScript

open Layout (IsStripped commentLine)
open Text (lines)

/-! ## The texts of a file -/

/-- The texts that a file is put together from, empty where there is nothing. -/
structure Parts where
  header : String
  /-- The code before the declarations. -/
  before : String
  /-- The declarations of the helper types. -/
  helpers : String
  /-- Each of the declarations. -/
  declared : List String
  /-- The code after the declarations. -/
  after : String

namespace Parts

/-- The texts in the order of the file. -/
def texts (p : Parts) : List String := [p.header, p.before, p.helpers] ++ p.declared ++ [p.after]

/-- The texts that are not empty. -/
def sections (p : Parts) : List String := p.texts.filter (· ≠ "")

end Parts

/-- The header comment of a configuration, in which every line of its text is behind a mark. -/
def IsHeader (c : Config) (text : String) : Prop :=
  if c.flag .headerComment then
    lines text.toList =
        (lines (c.value .headerComment).display.toList).map (commentLine ['/', '/']) ∧
      ∀ l ∈ lines text.toList, ['/', '/'] <+: l
  else text = ""

/-- Code from a configuration without the line feeds around it. -/
def IsInjected (c : Config) (s : Setting) (text : String) : Prop :=
  if c.flag s then ∃ code, c.value s = .str code ∧ IsStripped code text else text = ""

/-- Code from a configuration that is nothing else than line feeds. -/
def IsOnlyFeeds (c : Config) (s : Setting) : Prop :=
  ∃ code, c.value s = .str code ∧ code ≠ "" ∧ ∀ char ∈ code.toList, char = '\n'

/-- The declarations of helper types, each on a line of its own. -/
def helperText (used : List Helper) : String :=
  String.intercalate "\n" ((inOrder used).map Helper.declaration)

/-- The texts of a data model under a naming. -/
structure Parts.Of (c : Config) (n : Naming) (d : Datamodel) (ds : Declarations) (p : Parts) :
    Prop where
  header : IsHeader c p.header
  before : IsInjected c .prefixCode p.before
  helpers : p.helpers = helperText (usedHelpers c n d)
  declared : p.declared =
    ds.enums.map EnumDeclaration.text ++ ds.models.map ModelDeclaration.text ++
      ds.types.map ModelDeclaration.text
  after : IsInjected c .suffixCode p.after

/-! ## Texts that are sections or empty -/

/-- A text is the only section, or there is none and it is empty. -/
def Shows (l : List String) (text : String) : Prop := l = [text] ∨ l = [] ∧ text = ""

theorem Shows.filter {l : List String} {text : String} (h : Shows l text) :
    l.filter (· ≠ "") = [text].filter (· ≠ "") := by
  obtain rfl | ⟨rfl, rfl⟩ := h
  · rfl
  · rfl

theorem exists_header (c : Config) :
    ∃ text, IsHeader c text ∧ Shows (headerSection c) text ∧ "" ∉ headerSection c := by
  by_cases present : c.flag .headerComment = true
  · have behind := Layout.lines_comment (c.value .headerComment).display
    refine ⟨_, ?_, Or.inl (if_pos present), ?_⟩
    · rw [IsHeader, if_pos present, behind]
      refine ⟨rfl, fun l hl => ?_⟩
      obtain ⟨k, _, rfl⟩ := List.mem_map.1 hl
      rw [Layout.commentLine_slashes]
      exact ⟨_, rfl⟩
    · rw [headerSection, if_pos present, List.mem_singleton]
      intro empty
      rw [← empty] at behind
      -- An empty comment would be a line without a mark.
      have marked : [] ∈ (lines (c.value .headerComment).display.toList).map
          (commentLine ['/', '/']) := behind ▸ List.mem_singleton_self []
      obtain ⟨k, _, none⟩ := List.mem_map.1 marked
      rw [Layout.commentLine_slashes] at none
      cases none
  · refine ⟨"", ?_, Or.inr ⟨if_neg present, rfl⟩, ?_⟩
    · rw [IsHeader, if_neg present]
    · rw [headerSection, if_neg present]
      exact List.not_mem_nil

theorem exists_code {c : Config} {s : Setting} {l : List String} (h : codeSection c s = .ok l) :
    ∃ text, IsInjected c s text ∧ Shows l text ∧ ("" ∈ l ↔ IsOnlyFeeds c s) := by
  rw [codeSection] at h
  by_cases present : (c.value s).truthy = true
  · simp only [present, if_true] at h
    cases value : c.value s with
    | str code =>
        rw [value] at h present
        cases h
        have stripped := Layout.isStripped_stripNewlines code
        have filled : code ≠ "" := by simpa [Value.truthy] using present
        refine ⟨_, ?_, Or.inl rfl, ?_⟩
        · rw [IsInjected, Config.flag, value, if_pos present]
          exact ⟨code, rfl, stripped⟩
        · rw [List.mem_singleton, eq_comm, stripped.eq_empty_iff]
          refine ⟨fun feeds => ⟨code, value, filled, feeds⟩, ?_⟩
          rintro ⟨other, same, _, feeds⟩
          rw [value] at same
          cases same
          exact feeds
    | _ =>
        rw [value] at h
        cases h
  · simp only [present, if_false, Bool.false_eq_true] at h
    cases h
    refine ⟨"", ?_, Or.inr ⟨rfl, rfl⟩, iff_of_false List.not_mem_nil ?_⟩
    · rw [IsInjected, Config.flag, if_neg present]
    · rintro ⟨code, value, filled, _⟩
      rw [value] at present
      exact present (by simpa [Value.truthy] using filled)

theorem shows_helpers (used : List Helper) :
    Shows (helperSection used) (helperText used) ∧ "" ∉ helperSection used := by
  rw [helperSection, helperText]
  cases inOrder used with
  | nil => exact ⟨Or.inr ⟨rfl, rfl⟩, List.not_mem_nil⟩
  | cons h hs =>
      refine ⟨Or.inl rfl, ?_⟩
      have filled : h.declaration ≠ "" := by cases h <;> decide
      rw [List.mem_singleton, List.map_cons, Text.intercalate_cons_eq_join, eq_comm,
        String.append_eq_empty_iff, not_and]
      exact fun empty => absurd empty filled

theorem EnumDeclaration.text_ne_empty (decl : EnumDeclaration) : decl.text ≠ "" := by
  rw [text]
  cases decl.shape <;> simp

theorem ModelDeclaration.text_ne_empty (decl : ModelDeclaration) : decl.text ≠ "" := by
  have opened : decl.opening ≠ "" := by
    rw [opening]
    cases decl.shape <;> simp
  rw [text]
  simp [opened]

theorem empty_not_mem_texts (ds : Declarations) : "" ∉ ds.texts := by
  rw [Declarations.texts, List.mem_append, List.mem_append, List.mem_map, List.mem_map,
    List.mem_map]
  rintro ((⟨decl, _, empty⟩ | ⟨decl, _, empty⟩) | ⟨decl, _, empty⟩)
  · exact decl.text_ne_empty empty
  · exact decl.text_ne_empty empty
  · exact decl.text_ne_empty empty

/-! ## Files of sections that are not empty -/

theorem filter_sections {p : Parts} {header before helpers after : List String}
    (hh : Shows header p.header) (hb : Shows before p.before) (hs : Shows helpers p.helpers)
    (ha : Shows after p.after) :
    (header ++ before ++ helpers ++ p.declared ++ after).filter (· ≠ "") = p.sections := by
  rw [List.filter_append, List.filter_append, List.filter_append, List.filter_append, hh.filter,
    hb.filter, hs.filter, ha.filter, Parts.sections, Parts.texts, List.filter_append,
    List.filter_append, ← List.filter_append, ← List.filter_append]
  rfl

/-- A file is made of the texts that are not empty, and of an empty one for configured code that is
nothing else than line feeds. -/
theorem Writes.exists_parts {c : Config} {d : Datamodel} {n : Naming} {ds : Declarations}
    {g : Generated} (h : Writes c d n ds g) :
    ∃ p all, Parts.Of c n d ds p ∧ g.code = finish c (fileText all) ∧
      all.filter (· ≠ "") = p.sections ∧
      ("" ∈ all ↔ IsOnlyFeeds c .prefixCode ∨ IsOnlyFeeds c .suffixCode) := by
  obtain ⟨before, after, hb, ha, code⟩ := h.code
  obtain ⟨header, isHeader, showsHeader, headed⟩ := exists_header c
  obtain ⟨first, isFirst, showsFirst, feedsFirst⟩ := exists_code hb
  obtain ⟨last, isLast, showsLast, feedsLast⟩ := exists_code ha
  obtain ⟨showsHelpers, helped⟩ := shows_helpers (usedHelpers c n d)
  let p : Parts := ⟨header, first, helperText (usedHelpers c n d), ds.texts, last⟩
  refine ⟨p, _, ⟨isHeader, isFirst, rfl, rfl, isLast⟩, code,
    filter_sections (p := p) showsHeader showsFirst showsHelpers showsLast, ?_⟩
  rw [← feedsFirst, ← feedsLast]
  simp [headed, helped, empty_not_mem_texts]

/-- The code of a file that is not formatted is made of the texts that are not empty, with an empty
line between each two and a line feed at the end, exactly if no configured code is nothing else than
line feeds. -/
theorem code_eq_iff {directory : List String} {c : Config} {d : Datamodel} {g : Generated}
    (plain : c.flag .formatOutput = false) (h : generate .typeScript directory c d = .ok g) :
    ∃ n ds p, Naming.build c d = .ok n ∧ declarations c n d = .ok ds ∧ Parts.Of c n d ds p ∧
      (p.sections ≠ [] →
        (g.code = String.intercalate "\n\n" p.sections ++ "\n" ↔
          ¬ (IsOnlyFeeds c .prefixCode ∨ IsOnlyFeeds c .suffixCode))) := by
  obtain ⟨n, ds, writes⟩ := exists_writes h
  obtain ⟨p, all, parts, code, same, feeds⟩ := writes.exists_parts
  refine ⟨n, ds, p, writes.naming, writes.declarations, parts, fun some_section => ?_⟩
  rw [finish, if_neg (by rw [plain]; decide)] at code
  rw [← same] at some_section ⊢
  obtain ⟨s, hs⟩ := List.exists_mem_of_ne_nil _ some_section
  have filled := List.mem_filter.1 hs
  rw [code, ← feeds]
  refine (Layout.fileText_filter_iff ⟨s, filled.1, of_decide_eq_true filled.2⟩).trans ?_
  exact ⟨fun every empty => every "" empty rfl, fun none s hs empty => none (empty ▸ hs)⟩

/-- Tags with a label. -/
def tags : Datamodel where
  models :=
    [{ name := .str "Tag", dbName := .null, documentation := .null
       fields := [Datamodel.plainField "label" .scalar "String"] }]
  enums := []
  types := []

/-- The declaration of tags. -/
def tagText : String := "export interface Tag \x7b\n  label: string;\n\x7d"

/-- A header over several lines, code with line feeds around it, and code without. -/
def framed : Config :=
  ((Config.default.set .headerComment (.str "Generated\n\nDo not edit")).set .prefixCode
    (.str "\nimport \"./setup\";\n\n")).set .suffixCode (.str "export \x7b\x7d;")

/-- The file of the tags in a frame is made of the texts that are not empty. -/
theorem framed_tags_code :
    framed.flag .formatOutput = false ∧
      ∃ g n ds p, generate .typeScript ["work"] framed tags = .ok g ∧
        declarations framed n tags = .ok ds ∧ Parts.Of framed n tags ds p ∧ p.sections ≠ [] ∧
        g.code = String.intercalate "\n\n" p.sections ++ "\n" := by
  have plain : framed.flag .formatOutput = false := rfl
  have made : ∃ g n ds, generate .typeScript ["work"] framed tags = .ok g ∧
      Naming.build framed tags = .ok n ∧ declarations framed n tags = .ok ds ∧
      ds.texts = [tagText] := ⟨_, _, _, rfl, rfl, rfl, rfl⟩
  obtain ⟨g, n, ds, hg, hn, hd, texts⟩ := made
  obtain ⟨n', ds', p, hn', hd', parts, code⟩ := code_eq_iff plain hg
  cases hn.symm.trans hn'
  cases hd.symm.trans hd'
  have declared : p.declared = [tagText] := parts.declared.trans texts
  have member : tagText ∈ p.texts := by
    simp [Parts.texts, declared]
  have some_section : p.sections ≠ [] :=
    List.ne_nil_of_mem (List.mem_filter.2 ⟨member, by decide⟩)
  refine ⟨plain, g, n, ds, p, hg, hd, parts, some_section, (code some_section).2 ?_⟩
  rintro (⟨code, value, _, feeds⟩ | ⟨code, value, _, feeds⟩)
  · cases value
    exact absurd (feeds 'i' (by decide)) (by decide)
  · cases value
    exact absurd (feeds 'e' (by decide)) (by decide)

/-- A configuration whose code before the declarations is one line feed. -/
def spread : Config := Config.default.set .prefixCode (.str "\n")

/-- The header comment that is written unless another is configured. -/
def usualHeader : String := "// This file was auto-generated by schema-typegen"

/-- A line feed as code leaves more than an empty line between the header comment and the first
declaration. -/
theorem spread_tags_code :
    spread.flag .formatOutput = false ∧
      ∃ g n ds p, generate .typeScript ["work"] spread tags = .ok g ∧
        declarations spread n tags = .ok ds ∧ Parts.Of spread n tags ds p ∧
        p.sections = [usualHeader, tagText] ∧
        g.code = usualHeader ++ "\n\n\n\n" ++ tagText ++ "\n" ∧
        g.code ≠ String.intercalate "\n\n" p.sections ++ "\n" := by
  have made : ∃ g n ds, generate .typeScript ["work"] spread tags = .ok g ∧
      Naming.build spread tags = .ok n ∧ declarations spread n tags = .ok ds ∧
      g.code = usualHeader ++ "\n\n\n\n" ++ tagText ++ "\n" ∧ ds.texts = [tagText] ∧
      helperText (usedHelpers spread n tags) = "" := ⟨_, _, _, rfl, rfl, rfl, rfl, rfl, rfl⟩
  obtain ⟨g, n, ds, hg, -, hd, code, texts, helpers⟩ := made
  have header : IsHeader spread usualHeader := by
    rw [IsHeader, if_pos (by decide)]
    exact ⟨rfl, by decide⟩
  have before : IsInjected spread .prefixCode "" := by
    rw [IsInjected, if_pos (by decide)]
    exact ⟨"\n", rfl, ⟨['\n'], [], by simp, rfl⟩, by decide, by decide⟩
  have after : IsInjected spread .suffixCode "" := by
    rw [IsInjected, if_neg (by decide)]
  refine ⟨rfl, g, n, ds, ⟨usualHeader, "", "", [tagText], ""⟩, hg, hd,
    ⟨header, before, helpers.symm, texts.symm, after⟩, by decide, code, ?_⟩
  rw [code]
  decide

end Typewright.TypeScript
