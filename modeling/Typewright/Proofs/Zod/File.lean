import Typewright.Proofs.Outcome
import Typewright.Zod.File

/-!
# What a file of schemas is made of

The definitions that make a file of schemas are taken apart, as those of TypeScript files are: which
steps a file, the schema of an enum, and the schema of a model consist of.

A file of schemas is a list of statements, which are run one after the other. `Statement` keeps them
apart, so that one can say which comes before which.
-/

namespace Typewright.Zod

/-! ## Statements -/

/-- A statement of a file of schemas. -/
inductive Statement where
  /-- The import at the head of the file. -/
  | head
  | enum (s : EnumSchema)
  | object (s : ObjectSchema)

namespace Statement

/-- The text of a statement. -/
def text : Statement → String
  | head => importLine
  | enum s => s.text
  | object s => s.text

/-- The name of the enum that a statement declares, if it declares one. -/
def enumName? : Statement → Option String
  | enum s => some s.name
  | _ => none

end Statement

/-- The statements of a file, in order. -/
def statements (enums : List EnumSchema) (models : List ObjectSchema) : List Statement :=
  [.head] ++ enums.map .enum ++ models.map .object

theorem map_text_statements (enums : List EnumSchema) (models : List ObjectSchema) :
    (statements enums models).map Statement.text =
      [importLine] ++ enums.map EnumSchema.text ++ models.map ObjectSchema.text := by
  simp [statements, Statement.text, Function.comp_def]

/-! ## Files and schemas -/

theorem file_eq_ok {c : Config} {n : Naming} {d : Datamodel} {code : String} :
    file c n d = .ok code ↔
      ∃ enums models, d.enums.mapM (enumSchema n) = .ok enums ∧
        d.models.mapM (objectSchema c n) = .ok models ∧
        code = fileText ([importLine] ++ enums.map EnumSchema.text ++
          models.map ObjectSchema.text) := by
  constructor
  · intro h
    obtain ⟨parts, hp, h⟩ := bind_eq_ok.1 h
    obtain ⟨enums, he, hp⟩ := bind_eq_ok.1 hp
    obtain ⟨models, hm, hp⟩ := bind_eq_ok.1 hp
    rw [pure_eq_ok] at h hp
    exact ⟨enums, models, he, hm, by rw [← h, ← hp]⟩
  · rintro ⟨enums, models, he, hm, rfl⟩
    rw [file, sections, he, ok_bind, hm]
    rfl

theorem enumSchema_eq_ok {n : Naming} {e : Enumeration} {s : EnumSchema} :
    enumSchema n e = .ok s ↔ n.enumName e.name = .ok s.name ∧ s.values = e.values := by
  constructor
  · intro h
    obtain ⟨name, hn, h⟩ := bind_eq_ok.1 h
    cases pure_eq_ok.1 h
    exact ⟨hn, rfl⟩
  · rintro ⟨hn, hv⟩
    rw [enumSchema, hn, ← hv]
    rfl

theorem objectSchema_eq_ok {c : Config} {n : Naming} {m : Model} {s : ObjectSchema} :
    objectSchema c n m = .ok s ↔
      n.declarationName m.name = .ok s.name ∧
        ∃ found, m.fields.mapM (entry c n) = .ok found ∧ s.entries = found.filterMap id := by
  constructor
  · intro h
    obtain ⟨name, hn, h⟩ := bind_eq_ok.1 h
    obtain ⟨found, hf, h⟩ := bind_eq_ok.1 h
    cases pure_eq_ok.1 h
    exact ⟨hn, found, hf, rfl⟩
  · rintro ⟨hn, found, hf, hs⟩
    rw [objectSchema, hn, ok_bind, hf, ok_bind, ← hs]
    rfl

end Typewright.Zod
