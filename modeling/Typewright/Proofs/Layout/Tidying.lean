import Mathlib.Data.List.Chain
import Typewright.Proofs.Layout.Reading

/-!
# What tidying does

Lines with something on them stay, in order, without the blanks at their ends. Of the blank lines
before, between and after them one is left, as an empty line, where there are any. The blank lines
are told apart by cutting a list of lines at the others, so that there is one piece more than there
are lines with something on them, and the pieces of the tidied lines are those of the lines with
each shrunk (`splitOnP_tidyLines`).

Lines that end with no blank and have no two empty ones next to each other (`IsTidy`) are tidied to
themselves (`IsTidy.tidyLines`). Tidied lines are such lines, and so tidying twice is tidying once.
-/

namespace Typewright.Layout

open Text (allBlank dropBlanksEnd isBlank lines)

/-! ## Tidy lines -/

/-- Lines that are tidied to themselves. -/
structure IsTidy (ls : List (List Char)) : Prop where
  /-- No line ends with a blank. -/
  trimmed : ∀ l ∈ ls, ∀ c ∈ l.getLast?, isBlank c = false
  /-- No two empty lines are next to each other. -/
  apart : ls.IsChain fun l k => ¬ (l = [] ∧ k = [])

theorem getLast?_dropBlanksEnd {l : List Char} {c : Char}
    (h : c ∈ (dropBlanksEnd l).getLast?) : isBlank c = false := by
  obtain empty | ⟨kept, d, whole, ink⟩ := dropBlanksEnd_eq_nil_or_concat l
  · rw [empty] at h
    cases h
  · rw [whole, List.getLast?_concat, Option.mem_some_iff] at h
    rwa [← h]

theorem dropBlanksEnd_eq_self {l : List Char} (h : ∀ c ∈ l.getLast?, isBlank c = false) :
    dropBlanksEnd l = l := by
  obtain rfl | ⟨kept, c, rfl⟩ := List.eq_nil_or_concat' l
  · rfl
  · exact (dropBlanksEnd_concat_iff kept c).2 (h c List.getLast?_concat)

/-- No two empty lines are left next to each other, and none after an empty line before. -/
theorem isChain_shrink (afterEmpty : Bool) (ls : List (List Char)) :
    (shrink afterEmpty ls).IsChain (fun l k => ¬ (l = [] ∧ k = [])) ∧
      (afterEmpty = true → [] ∉ (shrink afterEmpty ls).head?) := by
  induction ls generalizing afterEmpty with
  | nil => exact ⟨List.isChain_nil, fun _ h => by cases h⟩
  | cons l ls ih =>
      by_cases empty : l = []
      · subst empty
        cases afterEmpty with
        | true => exact ih true
        | false =>
            refine ⟨List.isChain_cons.2 ⟨fun k first both => ?_, (ih true).1⟩, nofun⟩
            rw [both.2] at first
            exact (ih true).2 rfl first
      · rw [shrink_cons afterEmpty empty]
        refine ⟨List.isChain_cons.2 ⟨fun k _ both => empty both.1, (ih false).1⟩, fun _ first => ?_⟩
        rw [List.head?_cons, Option.mem_some_iff] at first
        exact empty first

theorem isTidy_tidyLines (ls : List (List Char)) : IsTidy (tidyLines ls) where
  trimmed := by
    intro k hk c hc
    obtain ⟨l, _, rfl⟩ := List.mem_map.1 ((shrink_sublist false _).subset hk)
    exact getLast?_dropBlanksEnd hc
  apart := (isChain_shrink false _).1

theorem shrink_eq_self {afterEmpty : Bool} {ls : List (List Char)}
    (apart : ls.IsChain fun l k => ¬ (l = [] ∧ k = []))
    (first : afterEmpty = true → [] ∉ ls.head?) : shrink afterEmpty ls = ls := by
  induction ls generalizing afterEmpty with
  | nil => rfl
  | cons l ls ih =>
      rw [List.isChain_cons] at apart
      by_cases empty : l = []
      · subst empty
        cases afterEmpty with
        | true => exact absurd rfl (first rfl)
        | false =>
            rw [shrink, if_neg Bool.false_ne_true,
              ih apart.2 fun _ next => apart.1 [] next ⟨rfl, rfl⟩]
      · rw [shrink_cons afterEmpty empty, ih apart.2 fun h => absurd h Bool.false_ne_true]

theorem IsTidy.tidyLines {ls : List (List Char)} (h : IsTidy ls) : tidyLines ls = ls := by
  have same : ls.map dropBlanksEnd = ls := by
    rw [List.map_congr_left fun l hl => dropBlanksEnd_eq_self (h.trimmed l hl), List.map_id']
  rw [Layout.tidyLines, same, shrink_eq_self h.apart fun e => absurd e Bool.false_ne_true]

/-! ## What is kept -/

/-- Whether there is something on a line other than blanks. -/
def holdsInk (l : List Char) : Bool := !allBlank l

theorem isEmpty_dropBlanksEnd (l : List Char) : (!(dropBlanksEnd l).isEmpty) = holdsInk l := by
  rw [holdsInk, Bool.not_inj_iff, Bool.eq_iff_iff, List.isEmpty_iff,
    Text.dropBlanksEnd_eq_nil_iff]

theorem filter_shrink (afterEmpty : Bool) (ls : List (List Char)) :
    (shrink afterEmpty ls).filter (!·.isEmpty) = ls.filter (!·.isEmpty) := by
  induction ls generalizing afterEmpty with
  | nil => rfl
  | cons l ls ih =>
      cases l with
      | nil =>
          cases afterEmpty with
          | true => exact ih true
          | false => exact ih true
      | cons c l => exact congrArg ((c :: l) :: ·) (ih false)

/-- The lines with something on them are kept, without the blanks at their ends. -/
theorem filter_tidyLines (ls : List (List Char)) :
    (tidyLines ls).filter (!·.isEmpty) = (ls.filter holdsInk).map dropBlanksEnd := by
  rw [tidyLines, filter_shrink, List.filter_map]
  exact congrArg _ (List.filter_congr fun l _ => isEmpty_dropBlanksEnd l)

/-! ## What is left of blank lines -/

/-- What is left of blank lines next to each other: one empty line, if there are any. -/
def shrunk (run : List (List Char)) : List (List Char) := if run.isEmpty then [] else [[]]

/-- Empty lines next to each other are shrunk, and those at the start are lost after an empty line
before. -/
theorem splitOnP_shrink (ls : List (List Char)) :
    (shrink false ls).splitOnP (!·.isEmpty) = (ls.splitOnP (!·.isEmpty)).map shrunk ∧
      (shrink true ls).splitOnP (!·.isEmpty) =
        [] :: ((ls.splitOnP (!·.isEmpty)).map shrunk).tail := by
  induction ls with
  | nil => exact ⟨rfl, rfl⟩
  | cons l ls ih =>
      cases l with
      | nil =>
          cases runs : ls.splitOnP (!·.isEmpty) with
          | nil => exact absurd runs (List.splitOnP_ne_nil _ _)
          | cons run runs' =>
              rw [runs] at ih
              rw [List.splitOnP_cons_eq_if_modifyHead, runs]
              refine ⟨?_, ih.2⟩
              show ([] :: shrink true ls).splitOnP (!·.isEmpty) = _
              rw [List.splitOnP_cons_eq_if_modifyHead, ih.2]
              rfl
      | cons c l =>
          have next (afterEmpty : Bool) : (shrink afterEmpty ((c :: l) :: ls)).splitOnP
              (!·.isEmpty) = [] :: (ls.splitOnP (!·.isEmpty)).map shrunk := by
            rw [shrink_cons afterEmpty (List.cons_ne_nil c l), List.splitOnP_cons_eq_if_modifyHead,
              ih.1]
            rfl
          rw [next, next, List.splitOnP_cons_eq_if_modifyHead]
          exact ⟨rfl, rfl⟩

theorem splitOnP_map {α β : Type} (f : α → β) (p : β → Bool) (l : List α) :
    (l.map f).splitOnP p = (l.splitOnP fun a => p (f a)).map (List.map f) := by
  induction l with
  | nil => rfl
  | cons a l ih =>
      rw [List.map_cons, List.splitOnP_cons_eq_if_modifyHead,
        List.splitOnP_cons_eq_if_modifyHead, ih]
      split
      · rfl
      · cases l.splitOnP fun a => p (f a) <;> rfl

/-- Blank lines before, between and after the others are shrunk. -/
theorem splitOnP_tidyLines (ls : List (List Char)) :
    (tidyLines ls).splitOnP (!·.isEmpty) = (ls.splitOnP holdsInk).map shrunk := by
  have size (run : List (List Char)) : shrunk (run.map dropBlanksEnd) = shrunk run := by
    rw [shrunk, shrunk, List.isEmpty_map]
  rw [tidyLines, (splitOnP_shrink _).1, splitOnP_map, List.map_map]
  simp only [isEmpty_dropBlanksEnd]
  exact List.map_congr_left fun run _ => size run

/-! ## Tidied texts -/

/-- Of blank lines alone one empty line is left. -/
theorem tidyLines_eq_singleton_iff {ls : List (List Char)} (some_line : ls ≠ []) :
    tidyLines ls = [[]] ↔ ∀ l ∈ ls, allBlank l = true := by
  have kept := filter_tidyLines ls
  constructor
  · intro empty
    rw [empty, eq_comm, List.filter_cons_of_neg (by decide), List.filter_nil, List.map_eq_nil_iff,
      List.filter_eq_nil_iff] at kept
    exact fun l hl => by simpa [holdsInk] using kept l hl
  · intro blank
    have none : ls.filter holdsInk = [] :=
      List.filter_eq_nil_iff.2 fun l hl => by simp [holdsInk, blank l hl]
    rw [none, List.map_nil, List.filter_eq_nil_iff] at kept
    have empty : ∀ k ∈ tidyLines ls, k = [] := fun k hk => by simpa using kept k hk
    match found : tidyLines ls with
    | [] => exact absurd found (tidyLines_ne_nil some_line)
    | [k] => rw [empty k (found ▸ List.mem_cons_self)]
    | k :: j :: ks =>
        have apart := (isTidy_tidyLines ls).apart
        rw [found, List.isChain_cons_cons] at apart
        refine absurd ⟨empty k ?_, empty j ?_⟩ apart.1
        · simp [found]
        · simp [found]

theorem tidy_eq_empty_iff {s : String} :
    tidy s = "" ↔ ∀ l ∈ lines s.toList, allBlank l = true := by
  have some_line : lines s.toList ≠ [] := Text.split_ne_nil '\n' s.toList
  rw [← tidyLines_eq_singleton_iff some_line, ← lines_tidy]
  constructor
  · intro empty
    rw [empty]
    rfl
  · intro single
    have whole : Text.unlines (lines (tidy s).toList) = (tidy s).toList := Text.join_split _ _
    rw [single] at whole
    exact String.toList_eq_nil_iff.1 whole.symm

theorem tidy_tidy (s : String) : tidy (tidy s) = tidy s := by
  have whole : Text.unlines (lines (tidy s).toList) = (tidy s).toList := Text.join_split _ _
  have tidied := isTidy_tidyLines (lines s.toList)
  rw [← lines_tidy] at tidied
  rw [tidy, tidied.tidyLines, whole, String.ofList_toList]

/-- A tidied text has tidy lines. The lines with something on them are those of the text, without
the blanks at their ends, and where the text has blank lines before, between or after them, the
tidied text has one empty line. Nothing is left of a text of blank lines, and nothing is left to
tidy. -/
theorem tidy_normalises (s : String) :
    IsTidy (lines (tidy s).toList) ∧
      (lines (tidy s).toList).filter (!·.isEmpty) =
        ((lines s.toList).filter holdsInk).map dropBlanksEnd ∧
      (lines (tidy s).toList).splitOnP (!·.isEmpty) =
        ((lines s.toList).splitOnP holdsInk).map shrunk ∧
      (tidy s = "" ↔ ∀ l ∈ lines s.toList, allBlank l = true) ∧
      tidy (tidy s) = tidy s := by
  refine ⟨?_, ?_, ?_, tidy_eq_empty_iff, tidy_tidy s⟩
  · rw [lines_tidy]
    exact isTidy_tidyLines _
  · rw [lines_tidy]
    exact filter_tidyLines _
  · rw [lines_tidy]
    exact splitOnP_tidyLines _

/-- Blank lines before, between and after two lines. -/
example : tidy "\n \n\tone \n\n\ntwo\n \n" = "\n\tone\n\ntwo\n" := by decide +kernel

end Typewright.Layout
