import Typewright.Proofs.Generation
import Typewright.Proofs.Pg.Layout
import Typewright.Proofs.TypeScript.Layout
import Typewright.Proofs.Zod.Layout

/-!
# Generated code is tidy

Tidying generated code changes nothing, so that it makes no difference whether it is configured. It
is so for every target, as long as names hold no blanks and settings no line feeds
(`tidy_generated`): the header comment and the documentation of fields may be any texts. A file
without sections is an exception. It is an empty line, and tidying takes it away.

The sections of each target stand, and they are put together as pieces that stand may be. Data access
asks for one thing more. Its import may lead through the working directory, which is no part of a
configuration, and so the names of the directories above have to keep to their line too.
-/

namespace Typewright

open Layout

/-! ## The sections of a file -/

/-- The sections of the file of a target, seen from a working directory. -/
def Target.sections (t : Target) (directory : List String) (c : Config) (n : Naming)
    (d : Datamodel) : Outcome (List String) :=
  match t with
  | typeScript => TypeScript.sections c n d
  | zod => Zod.sections c n d
  | pg => Pg.sections directory c n d

section Sections

variable {t : Target} {directory : List String} {c : Config} {n : Naming} {d : Datamodel}

/-- A file is the text of its sections. -/
theorem Target.file_eq_ok {code : String} :
    t.file directory c n d = .ok code ↔
      ∃ parts, t.sections directory c n d = .ok parts ∧ fileText parts = code := by
  cases t with
  | typeScript =>
      rw [file, sections, TypeScript.file, bind_eq_ok]
      simp only [pure_eq_ok]
  | zod =>
      rw [file, sections, Zod.file, bind_eq_ok]
      simp only [pure_eq_ok]
  | pg =>
      rw [file, sections, Pg.file, bind_eq_ok]
      simp only [pure_eq_ok]

/-- Every section of a file stands. -/
theorem Target.stands_of_sections (words : d.Unspaced) (settings : c.Unspaced) (names : n.Trimmed)
    (seen : t = pg → ∀ part ∈ directory, OneLine part) {parts : List String}
    (h : t.sections directory c n d = .ok parts) : ∀ s ∈ parts, Stands s := by
  cases t with
  | typeScript => exact TypeScript.stands_of_sections words settings names h
  | zod => exact Zod.stands_of_sections words names h
  | pg => exact Pg.stands_of_sections (seen rfl) words settings names h

/-! ## Generated code -/

/-- Generated code is the text of its sections, tidied or not, and is tidied to itself if it has a
section.

`seen` is an assumption on the working directory and not on what is generated: for data access, no
directory on the way to it has a line feed in its name. The specifier of the import can name these
directories, and a line feed in it can bring an empty line or a blank before one into the code. -/
theorem tidy_generated {g : Generated} (words : d.Unspaced) (settings : c.Unspaced)
    (seen : t = .pg → ∀ part ∈ directory, OneLine part)
    (h : generate t directory c d = .ok g) :
    ∃ n parts, Naming.build c d = .ok n ∧ t.sections directory c n d = .ok parts ∧
      (parts ≠ [] → g.code = fileText parts ∧ tidy g.code = g.code) := by
  obtain ⟨n, code, hn, hc, rfl⟩ := generate_eq_ok.1 h
  obtain ⟨parts, hp, rfl⟩ := Target.file_eq_ok.1 hc
  refine ⟨n, parts, hn, hp, fun some_section => ?_⟩
  have names : n.Trimmed := (Naming.build_finds hn).trimmed words settings
  have tidied : tidy (fileText parts) = fileText parts :=
    (tidy_fileText_iff (Target.stands_of_sections words settings names seen hp)).2 some_section
  have code : (handOut t c n d (fileText parts)).code = fileText parts := by
    rw [handOut, finish]
    split
    · exact tidied
    · rfl
  exact ⟨code, by rw [code, tidied]⟩

end Sections

/-- Notes with a documentation over several lines, some of them empty. -/
def Datamodel.notes : Datamodel where
  models :=
    [{ name := .str "Note", dbName := .str "all notes", documentation := .null
       fields := [plainField "id" .scalar "Int",
         { plainField "text" .scalar "String" with
           documentation := .str "What is kept. \n\n\nOf any length." }] }]
  enums := []
  types := []

/-- A header comment over several lines, some of them empty, and files in different directories. -/
def Config.commented : Config :=
  ((Config.default.set .headerComment (.str "Kept by hand. \n\n\n  Do not edit  \n")).set .output
    (.str "src/types.ts")).set .pgOutput (.str "../db.ts")

/-- The declarations and the data access of the notes are tidy under the header comment. -/
theorem notes_tidy_generated :
    Datamodel.notes.Unspaced ∧ Config.commented.Unspaced ∧
      (∃ g, generate .typeScript ["work"] Config.commented Datamodel.notes = .ok g ∧
        tidy g.code = g.code) ∧
      ∃ g, generate .pg ["work"] Config.commented Datamodel.notes = .ok g ∧
        tidy g.code = g.code := by
  have words : Datamodel.notes.Unspaced :=
    ⟨fun p => by cases p <;> decide, by decide, by decide, by decide, by decide⟩
  have settings : Config.commented.Unspaced :=
    ⟨fun p => by cases p <;> decide, fun s => by cases s <;> decide, by decide⟩
  have generated (t : Target) : ∃ g, generate t ["work"] Config.commented Datamodel.notes = .ok g := by
    have ok : (generate t ["work"] Config.commented Datamodel.notes).isOk = true := by
      cases t <;> decide +kernel
    cases h : generate t ["work"] Config.commented Datamodel.notes with
    | ok g => exact ⟨g, rfl⟩
    | error f =>
        rw [h] at ok
        cases ok
  obtain ⟨declared, hd⟩ := generated .typeScript
  obtain ⟨accessed, ha⟩ := generated .pg
  refine ⟨words, settings, ⟨declared, hd, ?_⟩, accessed, ha, ?_⟩
  · obtain ⟨n, parts, _, hp, tidied⟩ := tidy_generated words settings (fun h => by cases h) hd
    refine (tidied ?_).2
    rintro rfl
    obtain ⟨ds, _, hp⟩ := bind_eq_ok.1 hp
    cases hp
  · obtain ⟨n, parts, _, hp, tidied⟩ := tidy_generated words settings (fun _ => by decide) ha
    refine (tidied ?_).2
    rintro rfl
    obtain ⟨tables, _, hp⟩ := bind_eq_ok.1 hp
    obtain ⟨specifier, _, hp⟩ := bind_eq_ok.1 hp
    cases hp

end Typewright
