import Typewright.Proofs.Layout.Pieces
import Typewright.Section

/-!
# Tidy sections

The shapes that text takes in generated code are pieces that stand, whatever the text is: a comment
and a documentation block have something on every line, and no blanks at the ends of lines. A
margin changes nothing for a reader of tidy code (`read_indentLine`), since it is put before lines
that hold something.

A file of sections that stand is tidied to itself exactly if it has a section
(`tidy_fileText_iff`): without any it is an empty line, which is more than tidying leaves.
-/

namespace Typewright.Layout

open Text (isBlank allBlank dropBlanksEnd lines unlines mapLines)
open Spot (gap fresh ink)

/-! ## Texts line by line -/

theorem ofList_unlines (ls : List (List Char)) :
    String.ofList (unlines ls) = String.intercalate "\n" (ls.map String.ofList) := by
  rw [← String.toList_inj, String.toList_ofList, String.toList_intercalate, List.map_map, unlines,
    Text.join_eq_intercalate]
  simp

/-- Lines that stand are a text that stands. -/
theorem stands_unlines {ls : List (List Char)} (some_line : ls ≠ [])
    (h : ∀ l ∈ ls, Stands (String.ofList l)) : Stands (String.ofList (unlines ls)) := by
  rw [ofList_unlines]
  refine stands_intercalate Stands.next (by simpa using some_line) fun t ht => ?_
  obtain ⟨l, hl, rfl⟩ := List.mem_map.1 ht
  exact h l hl

/-- A change of lines that a reader does not notice goes unnoticed in a text. -/
theorem read_unlines_map {f : List Char → List Char} {ls : List (List Char)}
    (same : ∀ l ∈ ls, ∀ p : Spot, p.read (f l) = p.read l) (p : Spot) :
    p.read (unlines (ls.map f)) = p.read (unlines ls) := by
  induction ls generalizing p with
  | nil => rfl
  | cons l ls ih =>
      have first := same l List.mem_cons_self
      cases ls with
      | nil => exact first p
      | cons k ls =>
          have rest := ih fun l hl => same l (List.mem_cons_of_mem _ hl)
          show p.read (unlines (f l :: f k :: ls.map f)) = _
          rw [Spot.read_unlines_cons, Spot.read_unlines_cons, first]
          exact Option.bind_congr fun q _ => Option.bind_congr fun r _ => rest r

/-! ## Comments -/

/-- What is left of a line that holds something ends with it. -/
theorem isLine_dropBlanksEnd {l : List Char} (one : '\n' ∉ l) (inked : allBlank l ≠ true) :
    IsLine (String.ofList (dropBlanksEnd l)) := by
  obtain empty | ⟨kept, c, hc, ink⟩ := dropBlanksEnd_eq_nil_or_concat l
  · exact absurd ((Text.dropBlanksEnd_eq_nil_iff l).1 empty) inked
  · obtain ⟨blanks, _, whole⟩ := Text.exists_dropBlanksEnd_append l
    rw [hc] at whole ⊢
    exact isLine_of_concat (fun h => one (whole ▸ List.mem_append_left blanks h)) ink

/-- A comment stands, whatever is in it. -/
theorem stands_comment (s : String) : Stands (comment "//" s) := by
  have some_line : lines s.toList ≠ [] := Text.split_ne_nil '\n' s.toList
  refine stands_unlines (by simpa using some_line) fun t ht => ?_
  obtain ⟨l, hl, rfl⟩ := List.mem_map.1 ht
  have one := Text.not_mem_of_mem_split '\n' s.toList l hl
  exact (isLine_dropBlanksEnd (by simpa using one) (by simp [allBlank, isBlank])).stands

/-- A documentation block stands, whatever is in it. -/
theorem stands_docComment (width : Nat) (s : String) : Stands (docComment width s) := by
  have closed {l k : List Char} (one : '\n' ∉ l) (line : IsLine (String.ofList k)) :
      Stands (String.ofList (l ++ k)) := by
    rw [String.ofList_append]
    exact (IsLine.append (by rwa [OneLine, String.toList_ofList]) line).stands
  rw [docComment]
  by_cases several : s.toList.contains '\n' = true
  · rw [if_pos several]
    refine stands_unlines (List.cons_ne_nil _ _) fun t ht => ?_
    rw [blockLines, List.mem_cons, List.mem_append, List.mem_map, List.mem_singleton] at ht
    obtain rfl | ⟨l, hl, rfl⟩ | rfl := ht
    · exact closed (by simp [margin]) (by decide)
    · have one := Text.not_mem_of_mem_split '\n' s.toList l hl
      have inked : allBlank (margin width ++ [' ', '*', ' '] ++ l) ≠ true := by
        simp [allBlank, isBlank]
      exact (isLine_dropBlanksEnd (by simpa [margin] using one) inked).stands
    · exact closed (by simp [margin]) (by decide)
  · rw [if_neg several]
    exact closed (by simpa [margin] using several) (by decide)

/-! ## Margins -/

/-- A margin goes unnoticed. -/
theorem read_indentLine (width : Nat) {l : List Char} (one : '\n' ∉ l) (p : Spot) :
    p.read (indentLine width l) = p.read l := by
  rw [indentLine]
  by_cases empty : allBlank l = true
  · rw [if_pos empty]
  · rw [if_neg empty]
    obtain rfl | ⟨kept, c, rfl⟩ := List.eq_nil_or_concat' l
    · exact absurd rfl empty
    · rw [Spot.read_concat p one, ← List.append_assoc]
      exact Spot.read_concat p (by simpa [margin] using one)

/-- A text behind a margin stands if it does so without. -/
theorem stands_indent {s : String} (width : Nat) (h : Stands s) : Stands (indent width s) := by
  have unnoticed : gap.read (indent width s).toList = gap.read (unlines (lines s.toList)) := by
    rw [indent, mapLines, String.toList_ofList]
    exact read_unlines_map (fun l hl =>
      read_indentLine width (Text.not_mem_of_mem_split '\n' s.toList l hl)) gap
  have whole : unlines (lines s.toList) = s.toList := Text.join_split '\n' s.toList
  rw [Stands, Leads, unnoticed, whole]
  exact h

/-! ## Files -/

theorem stands_headerSection {c : Config} {s : String} (h : s ∈ headerSection c) : Stands s := by
  rw [headerSection] at h
  split at h
  · rw [List.mem_singleton.1 h]
    exact stands_comment _
  · cases h

/-- A file of sections that stand is tidied to itself exactly if it has a section. -/
theorem tidy_fileText_iff {parts : List String} (h : ∀ s ∈ parts, Stands s) :
    tidy (fileText parts) = fileText parts ↔ parts ≠ [] := by
  constructor
  · rintro same rfl
    cases same
  · intro some_part
    have body : Stands (String.intercalate "\n\n" parts) :=
      stands_intercalate Stands.apart some_part h
    exact tidy_eq_self_iff.2 ⟨fresh, (body.leads fresh).append rfl, Or.inl rfl⟩

end Typewright.Layout
