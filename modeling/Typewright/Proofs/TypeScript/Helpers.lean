import Typewright.Proofs.Config.Usual
import Typewright.Proofs.Generation
import Typewright.Proofs.Naming

/-!
# Helper types of a file

A file has a section that declares helper types. It declares those that are the type of a scalar
field, which is not all that the types of scalar fields mention: a representation may be a union
with a helper type as a member, or have blanks around it, and then its text is none of the names
that are looked up. `helper_declared_iff` says for configurations without warnings which helper
types are declared, and `helper_undeclared` is a file that mentions one without declaring it.

What makes the condition exact is that a helper type belongs to one scalar (`Helper.scalar`): where
all representations are usual, no other scalar has a type that mentions it
(`scalar_of_mentionedBy`).
-/

namespace Typewright.TypeScript

/-! ## Declared helper types -/

namespace Helper

/-- Whether a type expression has the name of a helper type as an identifier. -/
def MentionedBy (h : Helper) (expression : String) : Prop :=
  h.name.toList ∈ Text.identifiers expression.toList

instance (h : Helper) (expression : String) : Decidable (h.MentionedBy expression) :=
  inferInstanceAs (Decidable (_ ∈ _))

/-- Whether the declaration of a helper type is a line of some sections. -/
def DeclaredIn (h : Helper) (sections : List String) : Prop :=
  h.declaration.toList ∈ sections.flatMap fun s => Text.lines s.toList

theorem mentionedBy_name (h : Helper) : h.MentionedBy h.name := by cases h <;> decide

theorem declaration_injective : Function.Injective declaration := by
  intro g h same
  cases g <;> cases h <;> first | rfl | (exact absurd same (by decide))

theorem ofName?_eq_some {s : String} {h : Helper} : ofName? s = some h ↔ s = h.name := by
  constructor
  · intro hs
    have found : (h.name == s) = true := List.find?_some (p := fun x : Helper => x.name == s) hs
    exact (beq_iff_eq.1 found).symm
  · rintro rfl
    exact ofName?_name h

end Helper

theorem mem_inOrder {h : Helper} {used : List Helper} : h ∈ inOrder used ↔ h ∈ used := by
  rw [inOrder, List.mem_filter]
  simp [Helper.mem_all]

/-- The lines of the section of helper types are the declarations of those in use. -/
theorem lines_helperSection (used : List Helper) :
    ((helperSection used).flatMap fun s => Text.lines s.toList) =
      (inOrder used).map fun h => h.declaration.toList := by
  rw [helperSection]
  cases inOrder used with
  | nil => rfl
  | cons first rest =>
      have one : ∀ l ∈ (first :: rest).map Helper.declaration, '\n' ∉ l.toList := by
        intro l hl
        obtain ⟨x, _, rfl⟩ := List.mem_map.1 hl
        cases x <;> decide +kernel
      simp only [List.flatMap_singleton]
      rw [Text.lines_intercalate (by simp) one, List.map_map]
      rfl

/-- The section of helper types declares those in use. -/
theorem declaredIn_helperSection {h : Helper} {used : List Helper} :
    h.DeclaredIn (helperSection used) ↔ h ∈ used := by
  rw [Helper.DeclaredIn, lines_helperSection, List.mem_map, ← mem_inOrder]
  constructor
  · rintro ⟨x, hx, same⟩
    rwa [← Helper.declaration_injective (String.toList_inj.1 same)]
  · intro hh
    exact ⟨h, hh, rfl⟩

/-! ## Types that mention a helper type -/

/-- The scalar that a helper type represents. -/
def Helper.scalar : Helper → Scalar
  | bufferObject => .bytes
  | decimal => .decimal
  | jsonValue => .json

/-- A known word mentions a helper type only for the scalar of the helper type. -/
theorem representation_of_word (h : Helper) :
    ∀ p ∈ representations, ∀ w ∈ p.2, h.MentionedBy w → representation h.scalar = .inl p.1 := by
  cases h <;> decide

theorem exists_words {s : Scalar} {x : Setting} (h : representation s = .inl x) :
    ∃ words, (x, words) ∈ representations := by
  cases s <;> cases h <;> simp [representations]

theorem representation_injective {s t : Scalar} {x : Setting} (hs : representation s = .inl x)
    (ht : representation t = .inl x) : s = t := by
  cases s <;> cases hs <;> cases t <;> first | rfl | cases ht

/-- Parentheses change no identifier. -/
theorem identifiers_of_groupUnion {s e : String} (h : groupUnion (.str s) = .ok (.str e)) :
    Text.identifiers e.toList = Text.identifiers s.toList := by
  obtain ⟨bar, _, h⟩ := bind_eq_ok.1 h
  cases bar with
  | false => cases pure_eq_ok.1 h; rfl
  | true =>
      cases pure_eq_ok.1 h
      have parenthesized : ("(" ++ s ++ ")").toList = '(' :: (s.toList ++ ')' :: []) := by simp
      rw [Value.display_str, parenthesized, Text.identifiers_cons (by decide),
        Text.identifiers_append_cons (by decide), Text.identifiers_nil, List.append_nil]

/-- Where all representations are usual, a helper type is mentioned only for its scalar. -/
theorem scalar_of_mentionedBy {c : Config} (usual : c.warnings = .ok []) {s : Scalar}
    {e : String} (he : scalarExpression c s = .ok (.str e)) {h : Helper}
    (mentioned : h.MentionedBy e) : s = h.scalar := by
  rw [scalarExpression] at he
  cases hr : representation s with
  | inl x =>
      rw [hr] at he
      obtain ⟨words, hx⟩ := exists_words hr
      obtain ⟨t, ht, known⟩ := Config.usual_of_warnings usual _ hx
      rw [Helper.MentionedBy] at mentioned
      simp only [ht] at he
      rw [identifiers_of_groupUnion he] at mentioned
      obtain ⟨w, hw, hm⟩ := exists_word_of_isUsual known mentioned
      exact representation_injective hr (representation_of_word h _ hx w hw hm)
  | inr type =>
      rw [hr] at he
      cases he
      cases s <;> cases hr <;> cases h <;> first | rfl | (exact absurd mentioned (by decide))

theorem scalarType_eq_ok {c : Config} {tag : Value} {e : String} :
    scalarType c tag = .ok e ↔
      ∃ s : Scalar, tag = .str s.tag ∧ scalarExpression c s = .ok (.str e) := by
  constructor
  · intro h
    obtain ⟨v, hv, h⟩ := bind_eq_ok.1 h
    rw [tagExpression] at hv
    cases hs : Scalar.ofTag? tag with
    | none => rw [hs] at hv; exact absurd hv mismatched_ne_ok
    | some s =>
        rw [hs] at hv
        refine ⟨s, Scalar.ofTag?_eq_some.1 hs, ?_⟩
        rw [ofMisuse_eq_ok.1 hv]
        cases v with
        | str t => cases pure_eq_ok.1 h; rfl
        | _ => cases h
  · rintro ⟨s, rfl, he⟩
    rw [scalarType, tagExpression, Scalar.ofTag?_tag]
    exact bind_eq_ok.2 ⟨_, ofMisuse_eq_ok.2 he, rfl⟩

/-! ## Helper types in use -/

theorem fieldHelper?_eq_some {c : Config} {f : Field} {h : Helper} :
    fieldHelper? c f = some h ↔ f.kind = .scalar ∧ scalarType c f.type = .ok h.name := by
  rw [fieldHelper?]
  cases hk : f.kind with
  | scalar =>
      rw [helperOfTag?]
      cases ht : scalarType c f.type with
      | error e => simp
      | ok e => simp [Helper.ofName?_eq_some]
  | _ => simp

/-- A helper type is the type of a scalar field of a model or composite type. The type that the
field has in the end may be another. -/
def Helper.UsedBy (h : Helper) (c : Config) (d : Datamodel) : Prop :=
  ∃ m ∈ d.models ++ d.types, ∃ f ∈ m.fields, f.kind = .scalar ∧ scalarType c f.type = .ok h.name

theorem mem_usedHelpers {c : Config} {n : Naming} {d : Datamodel} {ds : Declarations}
    (made : declarations c n d = .ok ds) {h : Helper} :
    h ∈ usedHelpers c n d ↔ h.UsedBy c d := by
  rw [usedHelpers_eq made, List.mem_flatMap]
  simp only [List.mem_filterMap, fieldHelper?_eq_some]
  rfl

/-- Every scalar field of a file has a type for its tag. -/
theorem exists_scalarType {c : Config} {n : Naming} {d : Datamodel} {ds : Declarations}
    (made : declarations c n d = .ok ds) {m : Model} (hm : m ∈ d.models ++ d.types) {f : Field}
    (hf : f ∈ m.fields) (hk : f.kind = .scalar) : ∃ e, scalarType c f.type = .ok e := by
  obtain ⟨t, ht⟩ := fieldType_of_declarations made m hm f hf
  rw [fieldType, hk] at ht
  obtain ⟨e, he, _⟩ := bind_eq_ok.1 ht
  exact ⟨e, he⟩

/-- A helper type that the type of a scalar field mentions is declared exactly if it is that
type. -/
theorem helper_declared_iff {directory : List String} {c : Config} {d : Datamodel} {g : Generated}
    (usual : c.warnings = .ok []) (h : generate .typeScript directory c d = .ok g) :
    ∃ n ds, Writes c d n ds g ∧
      ∀ m ∈ d.models ++ d.types, ∀ f ∈ m.fields, f.kind = .scalar →
        ∃ e, scalarType c f.type = .ok e ∧ ∀ helper : Helper, helper.MentionedBy e →
          (helper.DeclaredIn (helperSection (usedHelpers c n d)) ↔ e = helper.name) := by
  obtain ⟨n, ds, writes⟩ := exists_writes h
  refine ⟨n, ds, writes, fun m hm f hf hk => ?_⟩
  obtain ⟨e, he⟩ := exists_scalarType writes.declarations hm hf hk
  refine ⟨e, he, fun helper mentioned => ?_⟩
  rw [declaredIn_helperSection, mem_usedHelpers writes.declarations]
  constructor
  · rintro ⟨_, _, other, _, _, hother⟩
    -- The other field is of the same scalar, since both types mention the helper type.
    obtain ⟨s, hs, hes⟩ := scalarType_eq_ok.1 he
    obtain ⟨t, ht, het⟩ := scalarType_eq_ok.1 hother
    have same : s = t := (scalar_of_mentionedBy usual hes mentioned).trans
      (scalar_of_mentionedBy usual het helper.mentionedBy_name).symm
    subst same
    rw [hes] at het
    cases het
    rfl
  · rintro rfl
    exact ⟨m, hm, f, hf, hk, he⟩

/-- Prices, which are decimal numbers. -/
def prices : Datamodel where
  models :=
    [{ name := .str "Price", dbName := .null, documentation := .null
       fields := [Datamodel.plainField "amount" .scalar "Decimal"] }]
  enums := []
  types := []

/-- Prices are of the helper type for decimal numbers, so their file declares it. -/
theorem prices_helper_declared :
    Config.default.warnings = .ok [] ∧
      ∃ g n ds, generate .typeScript ["src"] Config.default prices = .ok g ∧
        Writes Config.default prices n ds g ∧
        ∀ m ∈ prices.models ++ prices.types, ∀ f ∈ m.fields, f.kind = .scalar →
          ∃ e, scalarType Config.default f.type = .ok e ∧
            ∀ helper : Helper, helper.MentionedBy e →
              (helper.DeclaredIn (helperSection (usedHelpers Config.default n prices)) ↔
                e = helper.name) := by
  have usual : Config.default.warnings = .ok [] := rfl
  have made : ∃ g, generate .typeScript ["src"] Config.default prices = .ok g := ⟨_, rfl⟩
  obtain ⟨g, hg⟩ := made
  obtain ⟨n, ds, writes, declared⟩ := helper_declared_iff usual hg
  exact ⟨usual, g, n, ds, hg, writes, declared⟩

/-- A configuration in which a decimal number is of its helper type or a text. -/
def decimalOrText : Config := Config.default.set .decimalType (.str "Decimal | string")

/-- The file of prices that may be texts. -/
def decimalOrTextCode : String :=
  "// This file was auto-generated by schema-typegen\n\n" ++
    "export interface Price \x7b\n  amount: (Decimal | string);\n\x7d\n"

/-- The file of prices that may be texts mentions a helper type that it does not declare. -/
theorem helper_undeclared :
    decimalOrText.warnings = .ok [] ∧
      ∃ g n ds, generate .typeScript ["src"] decimalOrText prices = .ok g ∧
        g.code = decimalOrTextCode ∧
        Writes decimalOrText prices n ds g ∧
        ∃ m ∈ prices.models, ∃ f ∈ m.fields, f.kind = .scalar ∧
          scalarType decimalOrText f.type = .ok "(Decimal | string)" ∧
          Helper.decimal.MentionedBy "(Decimal | string)" ∧
          ¬ Helper.decimal.DeclaredIn (helperSection (usedHelpers decimalOrText n prices)) := by
  have made : ∃ g, generate .typeScript ["src"] decimalOrText prices = .ok g ∧
      g.code = decimalOrTextCode := ⟨_, rfl, rfl⟩
  have amount : scalarType decimalOrText (.str "Decimal") = .ok "(Decimal | string)" := rfl
  obtain ⟨g, hg, code⟩ := made
  obtain ⟨n, ds, writes⟩ := exists_writes hg
  refine ⟨rfl, g, n, ds, hg, code, writes, _, List.mem_singleton_self _, _,
    List.mem_singleton_self _, rfl, amount, by decide, ?_⟩
  rw [declaredIn_helperSection, mem_usedHelpers writes.declarations]
  rintro ⟨m, hm, f, hf, -, he⟩
  cases List.mem_singleton.1 hm
  cases List.mem_singleton.1 hf
  have same : "(Decimal | string)" = Helper.decimal.name := Except.ok.inj (amount.symm.trans he)
  exact absurd same (by decide)

end Typewright.TypeScript
