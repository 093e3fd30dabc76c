import Mathlib.Data.List.TakeWhile
import Typewright.Text.Lines
import Typewright.Text.Pattern

/-!
# Patterns at the starts of lines

A run of characters may be given up in part if the pattern does not fit after it. Where nothing fits
in front of the characters of the run, only its whole length counts (`exists_ends_seq_many`).

So a pattern after blanks is looked for behind all blanks that follow the start of a line, which is
on the first line that is not blank. If the pattern reads no further than to the end of that line,
the text may be read line by line: what is found is what the pattern finds on the first line that
it fits on at all (`ReadsLine.find?_indented`).
-/

namespace Typewright.Text

/-! ## Lines -/

/-- The characters up to the end of a line. -/
def lineRest (cs : List Char) : List Char := cs.takeWhile (· != '\n')

theorem lines_cons_newline (cs : List Char) : lines ('\n' :: cs) = [] :: lines cs := by
  rw [lines, split, if_pos rfl]
  rfl

theorem exists_lines (cs : List Char) : ∃ more, lines cs = lineRest cs :: more := by
  have first := head?_split '\n' cs
  cases hs : split '\n' cs with
  | nil => exact absurd hs (split_ne_nil '\n' cs)
  | cons l more =>
      rw [hs] at first
      exact ⟨more, by rw [lines, hs, lineRest, ← Option.some.inj first]⟩

theorem lines_cons {c : Char} (other : c ≠ '\n') {cs l : List Char} {more : List (List Char)}
    (h : lines cs = l :: more) : lines (c :: cs) = (c :: l) :: more := by
  rw [lines] at h ⊢
  rw [split, if_neg other, h]

theorem lineRest_cons {c : Char} (other : c ≠ '\n') (cs : List Char) :
    lineRest (c :: cs) = c :: lineRest cs :=
  List.takeWhile_cons_of_pos (by simpa using other)

theorem head?_of_head?_lineRest {cs : List Char} {c : Char} (h : (lineRest cs).head? = some c) :
    cs.head? = some c := by
  obtain ⟨rest, start⟩ := List.head?_eq_some_iff.1 h
  obtain ⟨more, rfl⟩ : c :: rest <+: cs := start ▸ List.takeWhile_prefix _
  rfl

/-- What comes after the blanks at the start of a text is on its first line that is not blank. -/
theorem lineRest_dropBlanks (cs : List Char) :
    lineRest (dropBlanks cs) =
      (((lines cs).find? fun l => !allBlank l).map dropBlanks).getD [] := by
  induction cs with
  | nil => rfl
  | cons c rest ih =>
      obtain ⟨more, hl⟩ := exists_lines rest
      cases blank : isBlank c with
      | true =>
          have dropped (cs : List Char) : dropBlanks (c :: cs) = dropBlanks cs :=
            List.dropWhile_cons_of_pos blank
          have whole (cs : List Char) : allBlank (c :: cs) = allBlank cs := by
            simp [allBlank, blank]
          rw [dropped, ih, hl]
          by_cases feed : c = '\n'
          · rw [feed, lines_cons_newline, hl]
            rfl
          · rw [lines_cons feed hl, List.find?_cons, List.find?_cons, whole]
            cases allBlank (lineRest rest) with
            | true => rfl
            | false => exact (dropped _).symm
      | false =>
          have feed : c ≠ '\n' := by
            rintro rfl
            exact absurd blank (by decide)
          have kept (cs : List Char) : dropBlanks (c :: cs) = c :: cs :=
            List.dropWhile_cons_of_neg (by simp [blank])
          rw [kept, lineRest_cons feed, lines_cons feed hl, List.find?_cons_of_pos]
          · exact (kept _).symm
          · simp [allBlank, blank]

namespace Pattern

/-! ## One pattern after another -/

theorem head?_ends_seq (r t : Pattern) (s : Cursor) :
    ((seq r t).ends s).head? = (r.ends s).findSome? fun e => (t.ends e).head? :=
  List.head?_flatMap

theorem ends_seq_maybe (r t : Pattern) (s : Cursor) :
    (seq (maybe r) t).ends s = (seq r t).ends s ++ t.ends s := by
  simp [ends]

theorem ends_seq_char {a : Char} {t : Pattern} {s : Cursor} {rest : List Char}
    (next : s.rest = a :: rest) :
    (seq (char a) t).ends s = t.ends { s with before := some a, rest } := by
  simp [char, ends, next]

theorem ends_char_of_ne {a : Char} {s : Cursor} (next : s.rest.head? ≠ some a) :
    (char a).ends s = [] := by
  cases hs : s.rest with
  | nil => simp [char, ends, hs]
  | cons c rest =>
      have other : c ≠ a := fun same => next (by rw [hs, same]; rfl)
      simp [char, ends, hs, other]

theorem ends_seq_char_of_ne {a : Char} {t : Pattern} {s : Cursor}
    (next : s.rest.head? ≠ some a) : (seq (char a) t).ends s = [] := by
  rw [ends, ends_char_of_ne next]
  rfl

/-- Behind a run in front of which nothing fits, a pattern fits at the end of the run or nowhere. -/
theorem exists_ends_seq_many {p : Char → Bool} {t : Pattern}
    (stuck : ∀ s : Cursor, ∀ c ∈ s.rest.head?, p c = true → t.ends s = []) (s : Cursor) :
    ∃ e : Cursor, e.rest = s.rest.dropWhile p ∧
      ((seq (many p) t).ends s).head? = (t.ends e).head? := by
  obtain ⟨before, rest, opened, closed⟩ := s
  simp only [head?_ends_seq]
  rw [ends]
  induction rest generalizing before with
  | nil => exact ⟨⟨before, [], opened, closed⟩, rfl, List.findSome?_singleton⟩
  | cons c rest ih =>
      rw [Cursor.along]
      by_cases hc : p c = true
      · obtain ⟨e, there, fits⟩ := ih (some c)
        refine ⟨e, by rw [there, List.dropWhile_cons_of_pos hc], ?_⟩
        rw [if_pos hc, List.reverse_cons, List.findSome?_append, fits, List.findSome?_singleton,
          stuck ⟨before, c :: rest, opened, closed⟩ c rfl hc, List.head?_nil, Option.or_none]
      · refine ⟨⟨before, c :: rest, opened, closed⟩, (List.dropWhile_cons_of_neg hc).symm, ?_⟩
        rw [if_neg hc, List.reverse_singleton, List.findSome?_singleton]

/-! ## Patterns on lines -/

/-- A pattern that does not fit in front of blanks, and whose first end is decided by the rest of
the line. -/
structure ReadsLine {β : Type} (r : Pattern) (out : Cursor → β) (found : List Char → Option β) :
    Prop where
  /-- It does not fit in front of a blank. -/
  stuck : ∀ s : Cursor, ∀ c ∈ s.rest.head?, isBlank c = true → r.ends s = []
  /-- It does not fit at the end of a line. -/
  nothing : found [] = none
  /-- What comes of its first end is found in the rest of the line. -/
  outcome : ∀ s : Cursor, (r.ends s).head?.map out = found (lineRest s.rest)

namespace ReadsLine

variable {β : Type} {r : Pattern} {out : Cursor → β} {found : List Char → Option β}

/-- At the start of a line, a pattern after blanks is looked for on the first line that is not
blank, and elsewhere it does not fit. -/
theorem ends_indented (h : ReadsLine r out found) (s : Cursor) :
    ((indented r).ends s).head?.map out =
      if s.startsLine then
        ((lines s.rest).find? fun l => !allBlank l).bind fun l => found (dropBlanks l)
      else none := by
  rw [indented, head?_ends_seq, ends]
  split
  · obtain ⟨e, there, fits⟩ := exists_ends_seq_many h.stuck s
    rw [List.findSome?_singleton, fits, h.outcome, there, ← dropBlanks, lineRest_dropBlanks]
    cases (lines s.rest).find? fun l => !allBlank l with
    | none => exact h.nothing
    | some l => rfl
  · rfl

theorem found_of_allBlank (h : ReadsLine r out found) {l : List Char}
    (blank : allBlank l = true) : found (dropBlanks l) = none := by
  have nothing : dropBlanks l = [] :=
    List.dropWhile_eq_nil_iff.2 (by simpa [allBlank] using blank)
  rw [nothing, h.nothing]

/-- What is found on the first line that is not blank is the first thing found on any line. -/
theorem findSome?_eq (h : ReadsLine r out found) (ls : List (List Char)) :
    ls.findSome? (fun l => found (dropBlanks l)) =
      ((ls.find? fun l => !allBlank l).bind fun l => found (dropBlanks l)).or
        (ls.tail.findSome? fun l => found (dropBlanks l)) := by
  induction ls with
  | nil => rfl
  | cons l ls ih =>
      rw [List.findSome?_cons, List.tail_cons]
      cases blank : allBlank l with
      | true =>
          rw [h.found_of_allBlank blank, List.find?_cons_of_neg (by simp [blank])]
          dsimp only
          rw [ih, ← Option.or_assoc, Option.or_self]
      | false =>
          rw [List.find?_cons_of_pos (by simp [blank]), Option.bind_some]
          cases found (dropBlanks l) with
          | none => exact Option.none_or.symm
          | some x => rfl

/-- Searching a text is going through its lines. -/
theorem findFrom_indented (h : ReadsLine r out found) (before : Option Char) (cs : List Char) :
    ((indented r).findFrom before cs).map out =
      (if (Cursor.fresh before cs).startsLine then lines cs else (lines cs).tail).findSome?
        fun l => found (dropBlanks l) := by
  induction cs generalizing before with
  | nil =>
      rw [findFrom, h.ends_indented, h.findSome?_eq]
      split
      · exact (Option.or_none).symm
      · rfl
  | cons c rest ih =>
      have later : ((indented r).findFrom (some c) rest).map out =
          (lines (c :: rest)).tail.findSome? fun l => found (dropBlanks l) := by
        rw [ih]
        by_cases feed : c = '\n'
        · rw [feed, lines_cons_newline]
          rfl
        · obtain ⟨more, hl⟩ := exists_lines rest
          rw [lines_cons feed hl, hl, if_neg (by simpa [Cursor.startsLine, Cursor.fresh] using feed)]
          rfl
      rw [findFrom, Option.map_or, h.ends_indented, later]
      split
      · exact (h.findSome?_eq _).symm
      · exact Option.none_or

theorem find?_indented (h : ReadsLine r out found) (cs : List Char) :
    ((indented r).find? cs).map out = (lines cs).findSome? fun l => found (dropBlanks l) :=
  h.findFrom_indented none cs

end ReadsLine

end Pattern

end Typewright.Text
