import Typewright.Text.Blank
import Typewright.Text.Lines

/-!
# Identifiers in a text

The *identifiers* of a text are its longest runs of letters, digits, underscores and dollar signs.
Any other character separates: what stands before it and what stands after it have their identifiers
apart (`identifiers_append_cons`), and all that is said here follows from this. A union has the
identifiers of its members (`identifiers_join`), and blanks at the ends add none
(`identifiers_trim`).
-/

namespace Typewright.Text

/-! ## The identifiers of a text -/

/-- The characters that identifiers are made of. -/
def isIdentifierChar (c : Char) : Bool := c.isAlphanum || c == '_' || c == '$'

/-- The identifiers of a text, in order. -/
def identifiers (cs : List Char) : List (List Char) :=
  (cs.splitOnP fun c => !isIdentifierChar c).filter fun run => !run.isEmpty

@[simp] theorem identifiers_nil : identifiers [] = [] := rfl

/-- A text with a separator in it has the identifiers before and those after it. -/
theorem identifiers_append_cons {c : Char} (hc : isIdentifierChar c = false)
    (before after : List Char) :
    identifiers (before ++ c :: after) = identifiers before ++ identifiers after := by
  have separates : (!isIdentifierChar c) = true := by rw [hc]; rfl
  rw [identifiers, List.splitOnP_append_cons before after separates, List.filter_append]
  rfl

theorem identifiers_cons {c : Char} (hc : isIdentifierChar c = false) (cs : List Char) :
    identifiers (c :: cs) = identifiers cs :=
  identifiers_append_cons hc [] cs

/-- Pieces with a separator between each two have the identifiers of the pieces. -/
theorem identifiers_join {c : Char} (hc : isIdentifierChar c = false)
    (pieces : List (List Char)) : identifiers (join [c] pieces) = pieces.flatMap identifiers := by
  induction pieces with
  | nil => rfl
  | cons piece pieces ih =>
      cases pieces with
      | nil => simp [join]
      | cons next pieces =>
          have joined : join [c] (piece :: next :: pieces) =
              piece ++ c :: join [c] (next :: pieces) := by
            simp [join]
          rw [joined, identifiers_append_cons hc, ih]
          rfl

/-! ## Blanks -/

theorem not_isIdentifierChar_of_isBlank {c : Char} (hc : isBlank c = true) :
    isIdentifierChar c = false := by
  rw [Bool.eq_false_iff]
  intro h
  have code : (48 ≤ c.toNat ∧ c.toNat ≤ 57) ∨ (65 ≤ c.toNat ∧ c.toNat ≤ 90) ∨
      (97 ≤ c.toNat ∧ c.toNat ≤ 122) ∨ c.toNat = 95 ∨ c.toNat = 36 := by
    delta isIdentifierChar Char.isAlphanum Char.isAlpha Char.isUpper Char.isLower Char.isDigit at h
    simp only [Bool.or_eq_true, Bool.and_eq_true, decide_eq_true_eq, beq_iff_eq,
      UInt32.le_iff_toNat_le, ge_iff_le, Char.ext_iff, ← UInt32.toNat_inj, Char.reduceVal,
      UInt32.reduceToNat, Char.toNat_val] at h
    omega
  simp only [isBlank, Bool.or_eq_true, Bool.and_eq_true, decide_eq_true_eq, beq_iff_eq] at hc
  omega

theorem identifiers_dropBlanks (cs : List Char) : identifiers (dropBlanks cs) = identifiers cs := by
  induction cs with
  | nil => rfl
  | cons c rest ih =>
      by_cases hc : isBlank c = true
      · rw [dropBlanks, List.dropWhile_cons_of_pos hc,
          identifiers_cons (not_isIdentifierChar_of_isBlank hc)]
        exact ih
      · rw [dropBlanks, List.dropWhile_cons_of_neg hc]

/-- What is dropped at the end of a text are blanks. -/
theorem exists_dropBlanksEnd_append (cs : List Char) :
    ∃ blanks, allBlank blanks = true ∧ dropBlanksEnd cs ++ blanks = cs := by
  induction cs with
  | nil => exact ⟨[], rfl, rfl⟩
  | cons c rest ih =>
      obtain ⟨blanks, hb, hrest⟩ := ih
      cases hkept : dropBlanksEnd rest with
      | nil =>
          rw [hkept, List.nil_append] at hrest
          subst hrest
          by_cases hc : isBlank c = true
          · exact ⟨c :: blanks, by simp_all [allBlank], by simp [dropBlanksEnd, hkept, hc]⟩
          · exact ⟨blanks, hb, by simp [dropBlanksEnd, hkept, hc]⟩
      | cons k kept =>
          refine ⟨blanks, hb, ?_⟩
          rw [dropBlanksEnd, hkept, List.cons_append, ← hrest, hkept]

theorem identifiers_blanks {cs : List Char} (h : allBlank cs = true) : identifiers cs = [] := by
  induction cs with
  | nil => rfl
  | cons c rest ih =>
      rw [allBlank, List.all_cons, Bool.and_eq_true] at h
      rw [identifiers_cons (not_isIdentifierChar_of_isBlank h.1), ih h.2]

theorem identifiers_dropBlanksEnd (cs : List Char) :
    identifiers (dropBlanksEnd cs) = identifiers cs := by
  obtain ⟨blanks, hb, hcs⟩ := exists_dropBlanksEnd_append cs
  cases blanks with
  | nil => rw [List.append_nil] at hcs; rw [hcs]
  | cons b blanks =>
      rw [allBlank, List.all_cons, Bool.and_eq_true] at hb
      rw [← congrArg identifiers hcs,
        identifiers_append_cons (not_isIdentifierChar_of_isBlank hb.1), identifiers_blanks hb.2,
        List.append_nil]

/-- A text has its identifiers also without the blanks around it. -/
theorem identifiers_trim (s : String) : identifiers (trim s).toList = identifiers s.toList := by
  rw [trim, String.toList_ofList, identifiers_dropBlanksEnd, identifiers_dropBlanks]

end Typewright.Text
