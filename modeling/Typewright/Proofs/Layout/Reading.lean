import Mathlib.Data.List.Basic
import Typewright.Layout
import Typewright.Proofs.Text.Identifiers

/-!
# Reading tidy code

Whether code is tidy can be told while it is read, from what came last: a line must not end after a
blank, and an empty line must not follow an empty line. `Spot` is what a reader keeps in mind, and
`Spot.read` goes on from one spot to the next, or stops where the code is not tidy. Code that is
read from its start to a place where code may end is just the code that is tidied to itself
(`tidy_eq_self_iff`).

What is read piece by piece is read as a whole (`Leads.append`), so that a text made of pieces is
tidy if its pieces are and fit together.
-/

namespace Typewright.Layout

open Text (isBlank dropBlanksEnd lines unlines)

/-! ## Spots -/

/-- Where a reader stands in tidy code. -/
inductive Spot where
  /-- At the start of a line, after an empty line. -/
  | gap
  /-- At the start of a line, not after an empty line. -/
  | fresh
  /-- Inside a line, after a blank. -/
  | blank
  /-- Inside a line, after something that is no blank. -/
  | ink
  deriving DecidableEq, Repr

namespace Spot

/-- The spot after a line feed, none if the code is not tidy. -/
def nextLine? : Spot → Option Spot
  | gap => none
  | fresh => some gap
  | blank => none
  | ink => some fresh

/-- The spot after one more character, none if the code is not tidy. -/
def next (p : Spot) (c : Char) : Option Spot :=
  if c = '\n' then p.nextLine? else some (if isBlank c then blank else ink)

/-- The spot after a text, none if the code is not tidy. -/
def read (p : Spot) : List Char → Option Spot
  | [] => some p
  | c :: cs => (p.next c).bind fun q => q.read cs

theorem read_append (p : Spot) (as bs : List Char) :
    p.read (as ++ bs) = (p.read as).bind fun q => q.read bs := by
  induction as generalizing p with
  | nil => rfl
  | cons a as ih =>
      rw [List.cons_append, read, read, Option.bind_assoc]
      exact Option.bind_congr fun q _ => ih q

/-- The spot after something on a line depends on its last character alone. -/
theorem read_concat (p : Spot) {l : List Char} {c : Char} (one : '\n' ∉ l ++ [c]) :
    p.read (l ++ [c]) = some (if isBlank c then blank else ink) := by
  induction l generalizing p with
  | nil =>
      have hc : c ≠ '\n' := fun h => one (by simp [h])
      rw [List.nil_append, read, next, if_neg hc]
      rfl
  | cons a l ih =>
      have ha : a ≠ '\n' := fun h => one (by simp [h])
      have hl : '\n' ∉ l ++ [c] := fun h => one (List.mem_cons_of_mem a h)
      rw [List.cons_append, read, next, if_neg ha]
      exact ih _ hl

/-- Nothing is wrong with a text on a line. -/
theorem exists_read {l : List Char} (one : '\n' ∉ l) (p : Spot) : ∃ q, p.read l = some q := by
  obtain rfl | ⟨l, c, rfl⟩ := List.eq_nil_or_concat' l
  · exact ⟨p, rfl⟩
  · exact ⟨_, read_concat p one⟩

/-- Whether code may end. -/
def IsEnd (p : Spot) : Prop := p = fresh ∨ p = ink

end Spot

open Spot (gap fresh blank ink)

/-! ## Lines as they stand -/

theorem dropBlanksEnd_concat_iff (l : List Char) (c : Char) :
    dropBlanksEnd (l ++ [c]) = l ++ [c] ↔ isBlank c = false := by
  constructor
  · induction l with
    | nil =>
        intro kept
        cases hc : isBlank c with
        | false => rfl
        | true =>
            rw [List.nil_append, dropBlanksEnd, dropBlanksEnd, hc] at kept
            cases kept
    | cons a l ih =>
        intro kept
        rw [List.cons_append, dropBlanksEnd] at kept
        split at kept
        · split at kept
          · cases kept
          · cases List.append_ne_nil_of_right_ne_nil l (by simp) (List.cons.inj kept).2.symm
        · exact ih (List.cons.inj kept).2
  · intro ink
    induction l with
    | nil => simp [dropBlanksEnd, ink]
    | cons a l ih =>
        cases hl : l ++ [c] with
        | nil => simp at hl
        | cons k kept => rw [List.cons_append, dropBlanksEnd, ih, hl]

theorem dropBlanksEnd_eq_nil_or_concat (l : List Char) :
    dropBlanksEnd l = [] ∨ ∃ kept c, dropBlanksEnd l = kept ++ [c] ∧ isBlank c = false := by
  induction l with
  | nil => exact Or.inl rfl
  | cons a l ih =>
      rw [dropBlanksEnd]
      obtain empty | ⟨kept, c, hc, inked⟩ := ih
      · rw [empty]
        cases ha : isBlank a with
        | true => exact Or.inl rfl
        | false => exact Or.inr ⟨[], a, rfl, ha⟩
      · refine Or.inr ⟨a :: kept, c, ?_, inked⟩
        rw [hc]
        cases kept with
        | nil => rfl
        | cons k kept => rfl

/-- A line that holds something is left in ink or behind a blank, as it is kept or not. -/
theorem Spot.read_line (p : Spot) {l : List Char} (one : '\n' ∉ l) (something : l ≠ []) :
    p.read l = some (if dropBlanksEnd l = l then ink else blank) := by
  obtain rfl | ⟨l, c, rfl⟩ := List.eq_nil_or_concat' l
  · exact absurd rfl something
  · rw [Spot.read_concat p one]
    cases hc : isBlank c with
    | false => rw [if_pos ((dropBlanksEnd_concat_iff l c).2 hc), if_neg Bool.false_ne_true]
    | true =>
        have changed : dropBlanksEnd (l ++ [c]) ≠ l ++ [c] := by
          rw [ne_eq, dropBlanksEnd_concat_iff, hc]
          decide
        rw [if_neg changed, if_pos rfl]

theorem Spot.read_unlines_cons (p : Spot) (l k : List Char) (ls : List (List Char)) :
    p.read (unlines (l :: k :: ls)) =
      (p.read l).bind fun q => q.nextLine?.bind fun r => r.read (unlines (k :: ls)) := by
  show p.read (l ++ ['\n'] ++ unlines (k :: ls)) = _
  rw [List.append_assoc, Spot.read_append]
  rfl

/-- Lines are only left out. -/
theorem shrink_sublist (afterEmpty : Bool) (ls : List (List Char)) :
    (shrink afterEmpty ls).Sublist ls := by
  induction ls generalizing afterEmpty with
  | nil => exact List.Sublist.refl []
  | cons l ls ih =>
      cases l with
      | nil =>
          rw [shrink]
          split
          · exact (ih true).cons []
          · exact (ih true).cons_cons []
      | cons c l => exact (ih false).cons_cons (c :: l)

theorem newline_not_mem_tidyLines {ls : List (List Char)} (one : ∀ l ∈ ls, '\n' ∉ l) :
    ∀ l ∈ tidyLines ls, '\n' ∉ l := by
  intro l hl
  obtain ⟨k, hk, rfl⟩ := List.mem_map.1 ((shrink_sublist false _).subset hl)
  obtain ⟨blanks, _, whole⟩ := Text.exists_dropBlanksEnd_append k
  exact fun feed => one k hk (whole ▸ List.mem_append_left blanks feed)

theorem tidyLines_ne_nil {ls : List (List Char)} (some_line : ls ≠ []) : tidyLines ls ≠ [] := by
  cases ls with
  | nil => exact absurd rfl some_line
  | cons l ls =>
      rw [tidyLines, List.map_cons]
      cases dropBlanksEnd l with
      | nil => exact List.cons_ne_nil _ _
      | cons c kept => exact List.cons_ne_nil _ _

theorem shrink_cons (afterEmpty : Bool) {l : List Char} (something : l ≠ [])
    (ls : List (List Char)) : shrink afterEmpty (l :: ls) = l :: shrink false ls := by
  cases l with
  | nil => exact absurd rfl something
  | cons c l => rfl

/-- An empty line after another is lost, and nothing comes for it. -/
theorem shrink_gap_ne {l : List Char} {ls ks : List (List Char)} (long : ks.length = ls.length) :
    shrink true ([] :: ks) ≠ l :: ls := by
  intro kept
  have same : shrink true ks = l :: ls := kept
  have short := (shrink_sublist true ks).length_le
  rw [same, List.length_cons] at short
  omega

/-- Lines of which none is lost begin as they did. -/
theorem head_of_shrink {afterEmpty : Bool} {l k : List Char} {ls ks : List (List Char)}
    (long : ls.length = ks.length) (h : shrink afterEmpty (l :: ls) = k :: ks) : l = k := by
  cases l with
  | nil =>
      cases afterEmpty with
      | true => exact absurd h (shrink_gap_ne long)
      | false => exact (List.cons.inj h).1
  | cons c l => exact (List.cons.inj h).1

/-- Lines are the lines after tidying exactly if they are read, from the start of the first, to an
end of the code. -/
theorem shrink_eq_self_iff {ls : List (List Char)} (one : ∀ l ∈ ls, '\n' ∉ l) (some_line : ls ≠ [])
    {p : Spot} (start : p = gap ∨ p = fresh) :
    shrink (p == gap) (ls.map dropBlanksEnd) = ls ↔
      ∃ q, p.read (unlines ls) = some q ∧ q.IsEnd := by
  induction ls generalizing p with
  | nil => exact absurd rfl some_line
  | cons l ls ih =>
      have rest (r : Spot) (start : r = gap ∨ r = fresh) (some_line : ls ≠ []) :=
        ih (fun k hk => one k (List.mem_cons_of_mem l hk)) some_line start
      have long : (ls.map dropBlanksEnd).length = ls.length := List.length_map _
      by_cases empty : l = []
      -- An empty line is kept unless it comes after another.
      · subst empty
        cases ls with
        | nil =>
            obtain rfl | rfl := start
            · refine iff_of_false (fun kept => by cases kept) ?_
              rintro ⟨q, h, stop⟩
              cases h
              obtain h | h := stop <;> cases h
            · exact iff_of_true rfl ⟨fresh, rfl, Or.inl rfl⟩
        | cons k ls =>
            rw [Spot.read_unlines_cons]
            obtain rfl | rfl := start
            · refine iff_of_false (shrink_gap_ne long) ?_
              rintro ⟨q, h, _⟩
              cases h
            · show [] :: shrink true ((k :: ls).map dropBlanksEnd) = [] :: k :: ls ↔ _
              rw [List.cons.injEq, and_iff_right rfl]
              exact rest gap (Or.inl rfl) (List.cons_ne_nil k ls)
      · have read := Spot.read_line p (one l List.mem_cons_self) empty
        by_cases kept : dropBlanksEnd l = l
        · rw [if_pos kept] at read
          rw [List.map_cons, kept, shrink_cons _ empty, List.cons.injEq, and_iff_right rfl]
          cases ls with
          | nil => exact iff_of_true rfl ⟨ink, read, Or.inr rfl⟩
          | cons k ls =>
              rw [Spot.read_unlines_cons, read]
              exact rest fresh (Or.inr rfl) (List.cons_ne_nil k ls)
        -- A line that ends in a blank is changed, and the reader stops behind it.
        · rw [if_neg kept] at read
          refine iff_of_false (fun same => kept (head_of_shrink long same)) ?_
          rintro ⟨q, h, stop⟩
          cases ls with
          | nil =>
              cases read.symm.trans h
              obtain h | h := stop <;> cases h
          | cons k ls =>
              rw [Spot.read_unlines_cons, read] at h
              cases h

/-! ## Texts that are read -/

/-- A text leads a reader from one spot to another. -/
def Leads (p : Spot) (s : String) (q : Spot) : Prop := p.read s.toList = some q

instance (p : Spot) (s : String) (q : Spot) : Decidable (Leads p s q) :=
  inferInstanceAs (Decidable (_ = _))

theorem Leads.append {p q r : Spot} {s t : String} (first : Leads p s q) (last : Leads q t r) :
    Leads p (s ++ t) r := by
  rw [Leads, String.toList_append, Spot.read_append, first]
  exact last

/-- The lines of tidied code are the tidied lines. -/
theorem lines_tidy (s : String) : lines (tidy s).toList = tidyLines (lines s.toList) := by
  rw [tidy, String.toList_ofList]
  exact Text.split_join '\n' _ (tidyLines_ne_nil (Text.split_ne_nil '\n' s.toList))
    (newline_not_mem_tidyLines (Text.not_mem_of_mem_split '\n' s.toList))

/-- Code is tidied to itself exactly if it is read from its start to an end. -/
theorem tidy_eq_self_iff {s : String} : tidy s = s ↔ ∃ q, Leads fresh s q ∧ q.IsEnd := by
  have whole : unlines (lines s.toList) = s.toList := Text.join_split '\n' s.toList
  have kept : tidyLines (lines s.toList) = lines s.toList ↔
      ∃ q, fresh.read (unlines (lines s.toList)) = some q ∧ q.IsEnd :=
    shrink_eq_self_iff (Text.not_mem_of_mem_split '\n' s.toList)
      (Text.split_ne_nil '\n' s.toList) (Or.inr rfl)
  rw [whole] at kept
  refine Iff.trans ⟨fun same => ?_, fun same => ?_⟩ kept
  · rw [← lines_tidy, same]
  · rw [tidy, same, whole, String.ofList_toList]

end Typewright.Layout
