import Mathlib.Algebra.GroupWithZero.Nat
import Mathlib.Algebra.Order.BigOperators.Group.List
import Mathlib.Algebra.Order.Group.Nat
import Mathlib.Data.List.TakeWhile
import Typewright.Proofs.Layout.Reading
import Typewright.Section

/-!
# Files without empty sections

A file is made of its sections, and an empty text among them would leave its mark: two line feeds
more (`fileText_filter_iff`). No comment is empty, since each of its lines starts with the comment
mark (`lines_comment`), but code may be nothing else than line feeds, and then nothing is left of it
without the line feeds around it (`IsStripped.eq_empty_iff`).
-/

namespace Typewright.Layout

open Text (dropBlanksEnd isBlank lines)

/-! ## Comments -/

theorem dropBlanksEnd_cons {c : Char} (ink : isBlank c = false) (cs : List Char) :
    dropBlanksEnd (c :: cs) = c :: dropBlanksEnd cs := by
  rw [dropBlanksEnd]
  cases dropBlanksEnd cs with
  | nil => rw [ink, if_neg Bool.false_ne_true]
  | cons k kept => rfl

theorem commentLine_slashes (l : List Char) :
    commentLine ['/', '/'] l = '/' :: '/' :: dropBlanksEnd (' ' :: l) := by
  rw [commentLine, List.cons_append, List.singleton_append, dropBlanksEnd_cons rfl,
    dropBlanksEnd_cons rfl]

/-- The lines of a comment are those of its text, each behind the mark. -/
theorem lines_comment (s : String) :
    lines (comment "//" s).toList = (lines s.toList).map (commentLine ['/', '/']) := by
  have some_line : lines s.toList ≠ [] := Text.split_ne_nil '\n' s.toList
  rw [comment, Text.mapLines, String.toList_ofList]
  refine Text.split_join '\n' _ (by simpa using some_line) fun k hk => ?_
  obtain ⟨l, hl, rfl⟩ := List.mem_map.1 hk
  have one := Text.not_mem_of_mem_split '\n' s.toList l hl
  obtain ⟨blanks, _, whole⟩ := Text.exists_dropBlanksEnd_append (' ' :: l)
  have kept : '\n' ∉ dropBlanksEnd (' ' :: l) := fun feed => by
    have member : '\n' ∈ ' ' :: l := whole ▸ List.mem_append_left blanks feed
    exact one (by simpa using member)
  show '\n' ∉ commentLine ['/', '/'] l
  rw [commentLine_slashes]
  simpa using kept

/-! ## Line feeds around a text -/

/-- A text is another one without the line feeds around it. -/
structure IsStripped (s t : String) : Prop where
  around : ∃ before after : List Char, (∀ c ∈ before ++ after, c = '\n') ∧
    s.toList = before ++ t.toList ++ after
  first : '\n' ∉ t.toList.head?
  last : '\n' ∉ t.toList.getLast?

theorem eq_newline_of_mem_takeWhile {l : List Char} {c : Char}
    (h : c ∈ l.takeWhile (· == '\n')) : c = '\n' := by
  simpa using List.mem_takeWhile_imp h

theorem newline_not_mem_head?_dropWhile (l : List Char) :
    '\n' ∉ (l.dropWhile (· == '\n')).head? := by
  intro feed
  have start := List.head?_dropWhile_not (· == '\n') l
  rw [Option.mem_def.1 feed] at start
  simp at start

theorem isStripped_stripNewlines (s : String) : IsStripped s (stripNewlines s) := by
  have front := List.takeWhile_append_dropWhile (p := (· == '\n')) (l := s.toList)
  have back := List.takeWhile_append_dropWhile (p := (· == '\n'))
    (l := (s.toList.dropWhile (· == '\n')).reverse)
  have inner := congrArg List.reverse back
  rw [List.reverse_append, List.reverse_reverse] at inner
  have text : (stripNewlines s).toList =
      ((s.toList.dropWhile (· == '\n')).reverse.dropWhile (· == '\n')).reverse := by
    rw [stripNewlines, String.toList_ofList]
  refine ⟨⟨_, _, fun c hc => ?_, by rw [text, List.append_assoc, inner, front]⟩, ?_, ?_⟩
  · rw [List.mem_append, List.mem_reverse] at hc
    exact hc.elim eq_newline_of_mem_takeWhile eq_newline_of_mem_takeWhile
  · -- The text starts as it did without the line feeds before it.
    intro feed
    refine newline_not_mem_head?_dropWhile s.toList ?_
    rw [← inner, ← text, List.head?_append, Option.mem_def.1 feed]
    rfl
  · rw [text, List.getLast?_reverse]
    exact newline_not_mem_head?_dropWhile _

/-- Nothing is left exactly of line feeds. -/
theorem IsStripped.eq_empty_iff {s t : String} (h : IsStripped s t) :
    t = "" ↔ ∀ c ∈ s.toList, c = '\n' := by
  obtain ⟨before, after, feeds, whole⟩ := h.around
  rw [whole]
  constructor
  · rintro rfl c hc
    exact feeds c (by simpa using hc)
  · intro all
    cases ht : t.toList with
    | nil => exact String.toList_eq_nil_iff.1 ht
    | cons c cs =>
        have feed : c = '\n' := all c (by simp [ht])
        refine absurd ?_ h.first
        rw [ht, feed]
        rfl

/-! ## Sections -/

theorem length_intercalate {parts : List String} (some_text : parts ≠ []) :
    (String.intercalate "\n\n" parts).length + 2 = (parts.map (·.length + 2)).sum := by
  induction parts with
  | nil => exact absurd rfl some_text
  | cons s parts ih =>
      cases parts with
      | nil => simp
      | cons t parts =>
          have later := ih (List.cons_ne_nil t parts)
          rw [String.intercalate_cons_cons, String.length_append, String.length_append,
            List.map_cons, List.sum_cons, ← later]
          show s.length + 2 + _ + 2 = _
          omega

/-- A file shows an empty text among others that are not, by two line feeds more. -/
theorem fileText_filter_iff {parts : List String} (some_text : ∃ s ∈ parts, s ≠ "") :
    fileText parts = fileText (parts.filter (· ≠ "")) ↔ ∀ s ∈ parts, s ≠ "" := by
  constructor
  · intro same s hs empty
    obtain ⟨t, ht, filled⟩ := some_text
    have kept : t ∈ parts.filter (· ≠ "") := List.mem_filter.2 ⟨ht, decide_eq_true filled⟩
    have lost : s ∈ parts.filter fun s => !decide (s ≠ "") :=
      List.mem_filter.2 ⟨hs, by simp [empty]⟩
    have all := ((List.filter_append_perm (· ≠ "") parts).map (String.length · + 2)).sum_eq
    have least := List.le_sum_of_mem (List.mem_map_of_mem (f := (String.length · + 2)) lost)
    rw [List.map_append, List.sum_append] at all
    rw [fileText, fileText, String.append_left_inj] at same
    have long := length_intercalate (List.ne_nil_of_mem ht)
    rw [same, length_intercalate (List.ne_nil_of_mem kept)] at long
    omega
  · intro filled
    rw [List.filter_eq_self.2 fun s hs => decide_eq_true (filled s hs)]

end Typewright.Layout
