/-!
# White space

A *blank* is a character of Unicode white space or one of the four information separators. The
functions here take blanks off the ends of a text; they work on lists of characters, and `trim` on
strings.
-/

namespace Typewright.Text

/-- The blanks, by code point. -/
def isBlank (c : Char) : Bool :=
  let n := c.toNat
  (0x09 ≤ n && n ≤ 0x0D) || (0x1C ≤ n && n ≤ 0x20) || n == 0x85 || n == 0xA0 || n == 0x1680 ||
    (0x2000 ≤ n && n ≤ 0x200A) || n == 0x2028 || n == 0x2029 || n == 0x202F || n == 0x205F ||
    n == 0x3000

/-- The characters after the blanks at the start. -/
def dropBlanks (cs : List Char) : List Char := cs.dropWhile isBlank

/-- The characters before the blanks at the end. -/
def dropBlanksEnd : List Char → List Char
  | [] => []
  | c :: rest =>
      match dropBlanksEnd rest with
      | [] => if isBlank c then [] else [c]
      | kept => c :: kept

/-- Whether a text holds nothing but blanks. -/
def allBlank (cs : List Char) : Bool := cs.all isBlank

/-- A text without the blanks at either end. -/
def trim (s : String) : String := String.ofList (dropBlanksEnd (dropBlanks s.toList))

/-! ## What is kept -/

/-- Nothing is kept exactly of a text of blanks. -/
theorem dropBlanksEnd_eq_nil_iff (cs : List Char) : dropBlanksEnd cs = [] ↔ allBlank cs = true := by
  induction cs with
  | nil => simp [dropBlanksEnd, allBlank]
  | cons c rest ih =>
    unfold dropBlanksEnd
    cases h : dropBlanksEnd rest with
    | nil =>
      have hr := ih.1 h
      by_cases hc : isBlank c = true
      · simp_all [allBlank]
      · simp_all [allBlank]
    | cons k ks =>
      have hr : allBlank rest ≠ true := fun hb => by simp [ih.2 hb] at h
      simp_all [allBlank]

end Typewright.Text
