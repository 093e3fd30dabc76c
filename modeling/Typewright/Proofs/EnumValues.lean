import Typewright.Proofs.Naming
import Typewright.Proofs.Text.Quotations
import Typewright.Proofs.TypeScript.File
import Typewright.Proofs.Zod.File

/-!
# Values of enums in code

The values of an enum can be read back from its declaration, and from its schema, as the quotations
of the text: in order, each as often as it comes. Values stand between double quotes there, with
whatever is in them escaped. An enum of the language and a constant object have the values as names
of their members too. Names are not escaped, so that no value may have a double quote in it if these
shapes are to be read back (`EnumShape.Shows`).
-/

namespace Typewright

open Text (Quotes quotations quotes_plain quotes_intercalate)

/-- The texts of the values of an enum. -/
def Enumeration.shown (e : Enumeration) : List String := e.values.map Value.display

namespace TypeScript

/-! ## Declarations -/

/-- Values can be read back from a shape: it has them between quotes only, or there are no quotes in
them. -/
def EnumShape.Shows (s : EnumShape) (values : List Value) : Prop :=
  s = .stringUnion ∨ ∀ v ∈ values, '"' ∉ v.display.toList

theorem quotes_memberLines {between : String} (hb : '"' ∉ between.toList) {values : List Value}
    (h : ∀ v ∈ values, '"' ∉ v.display.toList) :
    Quotes (memberLines between values) (values.map Value.display) := by
  refine quotes_intercalate (quotes_plain (by decide)) fun v hv => ?_
  have before : '"' ∉ ("\n  " ++ v.display ++ between).toList := by
    simpa using ⟨h v hv, hb⟩
  exact (quotes_plain before).append (Text.quotes_doubleQuoted v.display)

/-- The quotations of a declaration are the values of the enum. -/
theorem EnumDeclaration.quotes_text {decl : EnumDeclaration} (plain : '"' ∉ decl.name.toList)
    (shows : decl.shape.Shows decl.values) : Quotes decl.text (decl.values.map Value.display) := by
  have around {opening members closing : String}
      (ho : '"' ∉ opening.toList) (hm : Quotes members (decl.values.map Value.display))
      (hc : '"' ∉ closing.toList) :
      Quotes (opening ++ members ++ closing) (decl.values.map Value.display) := by
    have whole := ((quotes_plain ho).append hm).append (quotes_plain hc)
    rwa [List.nil_append, List.append_nil] at whole
  rw [EnumDeclaration.text]
  cases shape : decl.shape with
  | stringUnion =>
      refine around (by simpa using plain) ?_ (by decide)
      exact quotes_intercalate (quotes_plain (by decide)) fun v _ =>
        Text.quotes_doubleQuoted v.display
  | native =>
      have noQuotes := shows.resolve_left (by rw [shape]; decide)
      exact around (by simpa using plain) (quotes_memberLines (by decide) noQuotes) (by decide)
  | object =>
      have noQuotes := shows.resolve_left (by rw [shape]; decide)
      have closing : '"' ∉ ("\n\x7d as const;\n\nexport type " ++ decl.name ++ " = (typeof " ++
          decl.name ++ ")[keyof typeof " ++ decl.name ++ "];").toList := by
        simpa using plain
      have opening : '"' ∉ ("export const " ++ decl.name ++ " = \x7b").toList := by
        simpa using plain
      have members : Quotes (memberLines ": " decl.values) (decl.values.map Value.display) :=
        quotes_memberLines (by decide) noQuotes
      have whole := around opening members closing
      simpa only [String.append_assoc] using whole

end TypeScript

/-! ## Schemas -/

/-- The quotations of a schema are the values of the enum. -/
theorem Zod.EnumSchema.quotes_text {s : Zod.EnumSchema} (plain : '"' ∉ s.name.toList) :
    Quotes s.text (s.values.map Value.display) := by
  have values : Quotes (String.intercalate ", " (s.values.map Value.quoted))
      (s.values.map Value.display) :=
    quotes_intercalate (quotes_plain (by decide)) fun v _ => Text.quotes_doubleQuoted v.display
  have opening : '"' ∉ ("export const " ++ s.name ++ " = z.enum([").toList := by
    simpa using plain
  have whole := ((quotes_plain opening).append values).append (quotes_plain (s := "]);") (by decide))
  rwa [List.nil_append, List.append_nil] at whole

/-! ## Enums -/

/-- The values of an enum are read back from its declaration, if the shape shows them, and from its
schema. -/
theorem quotations_of_enum {c : Config} {n : Naming} {e : Enumeration} {name : String}
    (named : n.enums.get e.name = .ok (some name)) (plain : '"' ∉ name.toList) :
    (∀ shape : TypeScript.EnumShape, c.value .enumType = .str shape.word →
      ∃ decl, TypeScript.enumDeclaration c n e = .ok decl ∧ decl.name = name ∧
        decl.shape = shape ∧ (shape.Shows e.values → quotations decl.text = some e.shown)) ∧
      (name ≠ "" →
        ∃ s, Zod.enumSchema n e = .ok s ∧ s.name = name ∧ quotations s.text = some e.shown) := by
  constructor
  · intro shape configured
    refine ⟨⟨name, shape, e.values⟩, ?_, rfl, rfl, fun shows => ?_⟩
    · exact TypeScript.enumDeclaration_eq_ok.2 ⟨TypeScript.enumShape_eq_ok.2 configured, named, rfl⟩
    · exact (TypeScript.EnumDeclaration.quotes_text plain shows).quotations_eq
  · intro something
    refine ⟨⟨name, e.values⟩, ?_, rfl, (Zod.EnumSchema.quotes_text plain).quotations_eq⟩
    exact Zod.enumSchema_eq_ok.2 ⟨Naming.enumName_eq_ok.2 ⟨named, something⟩, rfl⟩

/-- Marks, of which two have a quote or a backslash in them, one looks like what stands between
values, and one comes twice. -/
def marks : Enumeration where
  name := .str "Mark"
  values := [.str "a\"b", .str "\\", .str "\" | \"", .str "a\"b"]
  documentation := .null

/-- Marks are read back from a union and from a schema. -/
theorem marks_quotations :
    ∃ n decl s, Naming.build Config.default ⟨[], [marks], []⟩ = .ok n ∧
      n.enums.get marks.name = .ok (some "Mark") ∧ '"' ∉ "Mark".toList ∧
      TypeScript.enumDeclaration Config.default n marks = .ok decl ∧
      quotations decl.text = some ["a\"b", "\\", "\" | \"", "a\"b"] ∧
      Zod.enumSchema n marks = .ok s ∧
      quotations s.text = some ["a\"b", "\\", "\" | \"", "a\"b"] := by
  have found : ∃ n, Naming.build Config.default ⟨[], [marks], []⟩ = .ok n ∧
      n.enums.get marks.name = .ok (some "Mark") := ⟨_, rfl, rfl⟩
  obtain ⟨n, hn, named⟩ := found
  have plain : '"' ∉ "Mark".toList := by decide
  obtain ⟨declared, schema⟩ := quotations_of_enum (c := Config.default) named plain
  obtain ⟨decl, hd, _, _, shown⟩ := declared .stringUnion rfl
  obtain ⟨s, hs, _, schemaShown⟩ := schema (by decide)
  exact ⟨n, decl, s, hn, named, plain, hd, shown (Or.inl rfl), hs, schemaShown⟩

end Typewright
