import Mathlib.Data.List.Infix
import Typewright.Proofs.Annotations.Lines

/-!
# Types in brackets

A bracket is read from the first line that has one. Whether it is literal is decided by a mark at
the start of a line, which is meant to be the line of the bracket but may be any. So a bracket without
a mark is taken as it is written, and not looked up in the namespace, if some other line of the
documentation starts with a mark (`bracket_verbatim_iff`).
-/

namespace Typewright.Annotations

open Text (dropBlanks lines)

/-! ## Lines and marks -/

/-- Whether a line starts with the mark of a literal type, blanks aside. -/
def IsMarked (l : List Char) : Prop := (dropBlanks l).head? = some '!'

instance (l : List Char) : Decidable (IsMarked l) := inferInstanceAs (Decidable (_ = _))

/-- Whether a bracket is written with the mark of a literal type in front, blanks aside. -/
def IsLiteral (l : List Char) : Prop := ['!', '['] <+: dropBlanks l

instance (l : List Char) : Decidable (IsLiteral l) := inferInstanceAs (Decidable (_ <+: _))

/-- The first line of a documentation that has a bracket, among the others, and its type. -/
structure FirstBracket (doc : List Char) (before : List (List Char)) (line : List Char)
    (after : List (List Char)) (body : List Char) : Prop where
  lines : lines doc = before ++ line :: after
  others : ∀ l ∈ before, lineBracket? l = none
  bracket : lineBracket? line = some body

section Lines

variable {doc line body : List Char} {before after : List (List Char)}

theorem hasLiteralMark_iff : hasLiteralMark doc = true ↔ ∃ l ∈ lines doc, IsMarked l :=
  hasLiteralMark_iff_head? doc

theorem lines_of_mem (h : line ∈ lines doc) : lines line = [line] :=
  Text.split_join '\n' [line] (List.cons_ne_nil _ _) fun p hp => by
    rw [List.mem_singleton.1 hp]
    exact Text.not_mem_of_mem_split '\n' doc line h

/-- A line with a bracket is marked where the bracket is. -/
theorem isMarked_iff (h : lineBracket? line = some body) : IsMarked line ↔ IsLiteral line := by
  rw [lineBracket?] at h
  rw [IsMarked, IsLiteral]
  split at h
  · next rest start =>
      rw [start]
      exact iff_of_false (by simp) (by simp)
  · next rest start =>
      rw [start]
      exact iff_of_true rfl (by simp)
  · cases h

namespace FirstBracket

theorem mem (h : FirstBracket doc before line after body) : line ∈ Text.lines doc := by
  rw [h.lines]
  exact List.mem_append_right before List.mem_cons_self

theorem bracket?_eq (h : FirstBracket doc before line after body) : bracket? doc = some body := by
  rw [Annotations.bracket?_eq, h.lines, List.findSome?_append, List.findSome?_eq_none_iff.2 h.others,
    Option.none_or, List.findSome?_cons_of_isSome (by rw [h.bracket]; rfl), h.bracket]

/-- The line alone is a documentation with the same bracket. -/
theorem alone (h : FirstBracket doc before line after body) :
    FirstBracket line [] line [] body where
  lines := lines_of_mem h.mem
  others := fun _ hl => absurd hl List.not_mem_nil
  bracket := h.bracket

theorem hasLiteralMark_iff (h : FirstBracket doc before line after body) :
    hasLiteralMark doc = true ↔ IsLiteral line ∨ ∃ l ∈ before ++ after, IsMarked l := by
  rw [Annotations.hasLiteralMark_iff, h.lines, ← isMarked_iff h.bracket]
  simp only [List.mem_append, List.mem_cons]
  constructor
  · rintro ⟨l, hl | rfl | hl, marked⟩
    · exact Or.inr ⟨l, Or.inl hl, marked⟩
    · exact Or.inl marked
    · exact Or.inr ⟨l, Or.inr hl, marked⟩
  · rintro (marked | ⟨l, hl | hl, marked⟩)
    · exact ⟨line, Or.inr (Or.inl rfl), marked⟩
    · exact ⟨l, Or.inl hl, marked⟩
    · exact ⟨l, Or.inr (Or.inr hl), marked⟩

end FirstBracket

end Lines

/-! ## Documentation without tags -/

theorem tag?_eq_none {doc : List Char} (untagged : ¬ tagWord <:+: doc) : tag? doc = none := by
  induction doc with
  | nil => rfl
  | cons c rest ih =>
      have noWord : tagWord.isPrefixOf? (c :: rest) = none := by
        cases hw : tagWord.isPrefixOf? (c :: rest) with
        | none => rfl
        | some after =>
            have start := List.isPrefixOf?_eq_some_iff_append_eq.1 hw
            exact absurd ⟨[], after, start⟩ untagged
      rw [tag?, noWord]
      exact ih fun inside => untagged (inside.trans (List.suffix_cons c rest).isInfix)

section Types

variable {c : Config} {doc line body : List Char} {before after : List (List Char)}

/-- A type that is looked up in a namespace is not the type in parentheses: there is a point more in
it, or it ends with a bracket. -/
theorem qualified_eq_grouped_iff (set : c.flag .namespaceType = true) {isLiteral : Bool} :
    qualified c isLiteral body = grouped body ↔ isLiteral = true := by
  cases isLiteral with
  | true => simp [qualified]
  | false =>
      refine iff_of_false (fun same => ?_) Bool.false_ne_true
      have same := congrArg String.toList same
      cases use : c.flag .useType with
      | true =>
          simp only [qualified, set, use, grouped, String.toList_append, String.toList_ofList,
            Bool.not_true, Bool.or_false, Bool.false_eq_true, if_false, if_true] at same
          have ends : "]".toList = [')'] :=
            List.append_inj_right' (same.trans (List.cons_append ..).symm) rfl
          exact absurd ends (by decide)
      | false =>
          simp only [qualified, set, use, grouped, String.toList_append, String.toList_ofList,
            Bool.not_true, Bool.or_false, Bool.false_eq_true, if_false] at same
          have lengths := congrArg List.length same
          have points := congrArg (List.count '.') same
          generalize (c.value .namespaceType).display.toList = space at same lengths points
          -- Of the namespace there is room for the opening parenthesis only.
          have one : space.length = 1 := by
            simp at lengths
            omega
          obtain ⟨a, rfl⟩ := List.length_eq_one_iff.1 one
          simp [List.count_cons] at points
          split at points <;> omega

theorem qualified_inj (set : c.flag .namespaceType = true) {isLiteral other : Bool} :
    qualified c isLiteral body = qualified c other body ↔ isLiteral = other := by
  constructor
  · intro same
    rw [Bool.eq_iff_iff, ← @qualified_eq_grouped_iff c body set isLiteral, same,
      qualified_eq_grouped_iff set]
  · rintro rfl
    rfl

/-- Without a tag, the first bracket decides. -/
theorem FirstBracket.resolve_eq (h : FirstBracket doc before line after body)
    (untagged : ¬ tagWord <:+: doc) (something : body ≠ []) :
    resolve c doc = qualified c (hasLiteralMark doc) body := by
  rw [resolve, tag?_eq_none untagged]
  dsimp only
  rw [ofBracket, h.bracket?_eq]
  cases body with
  | nil => exact absurd rfl something
  | cons a body => rfl

/-- Where a namespace is configured, the first bracket of a documentation is taken as it is written
if and only if it is literal or some other line is marked. So the other lines make no difference if
and only if none is marked or the bracket is literal anyway. -/
theorem bracket_verbatim_iff (set : c.flag .namespaceType = true) (untagged : ¬ tagWord <:+: doc)
    (first : FirstBracket doc before line after body) (something : body ≠ []) :
    (resolve c doc = grouped body ↔ IsLiteral line ∨ ∃ l ∈ before ++ after, IsMarked l) ∧
      (resolve c doc = resolve c line ↔
        ((∃ l ∈ before ++ after, IsMarked l) → IsLiteral line)) := by
  have alone : ¬ tagWord <:+: line :=
    fun inside => untagged (inside.trans (Text.infix_of_mem_split first.mem))
  have own : hasLiteralMark line = true ↔ IsLiteral line := by
    rw [first.alone.hasLiteralMark_iff]
    simp
  rw [first.resolve_eq untagged something, first.alone.resolve_eq alone something]
  constructor
  · rw [qualified_eq_grouped_iff set, first.hasLiteralMark_iff]
  · rw [qualified_inj set, Bool.eq_iff_iff, own, first.hasLiteralMark_iff]
    exact or_iff_left_iff_imp

end Types

/-- A configuration of the namespace of annotations. -/
def spaceConfig (space : String) : Config := Config.default.set .namespaceType (.str space)

/-- Marks that do not start a line make no difference, and neither do more brackets. -/
theorem labels_bracket_verbatim_iff :
    (spaceConfig "Api").flag .namespaceType = true ∧
      ¬ tagWord <:+: "All labels!\n  [Label[]]\nor [Tag]".toList ∧
      resolve (spaceConfig "Api") "All labels!\n  [Label[]]\nor [Tag]".toList ≠
        grouped "Label[]".toList ∧
      resolve (spaceConfig "Api") "All labels!\n  [Label[]]\nor [Tag]".toList =
        resolve (spaceConfig "Api") "  [Label[]]".toList := by
  have untagged : ¬ tagWord <:+: "All labels!\n  [Label[]]\nor [Tag]".toList := by decide +kernel
  have first : FirstBracket "All labels!\n  [Label[]]\nor [Tag]".toList ["All labels!".toList]
      "  [Label[]]".toList ["or [Tag]".toList] "Label[]".toList :=
    ⟨by decide +kernel, by decide +kernel, by decide +kernel⟩
  obtain ⟨verbatim_iff, alone_iff⟩ :=
    bracket_verbatim_iff (c := spaceConfig "Api") rfl untagged first (by decide)
  refine ⟨rfl, untagged, verbatim_iff.not.2 ?_, alone_iff.2 ?_⟩
  · decide +kernel
  · decide +kernel

/-- A line that starts with a mark makes a bracket on the next line literal. -/
theorem bracket_literal_by_other_line :
    (spaceConfig "Api").flag .namespaceType = true ∧
      ¬ tagWord <:+: "!Keep in sync.\n[Label]".toList ∧
      FirstBracket "!Keep in sync.\n[Label]".toList ["!Keep in sync.".toList] "[Label]".toList []
        "Label".toList ∧
      ¬ IsLiteral "[Label]".toList ∧
      resolve (spaceConfig "Api") "!Keep in sync.\n[Label]".toList = "(Label)" ∧
      resolve (spaceConfig "Api") "[Label]".toList = "Api.Label" :=
  ⟨rfl, by decide +kernel, ⟨by decide +kernel, by decide +kernel, by decide +kernel⟩,
    by decide +kernel, by decide +kernel, by decide +kernel⟩

end Typewright.Annotations
