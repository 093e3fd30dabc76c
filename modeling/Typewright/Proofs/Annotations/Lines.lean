import Typewright.Annotations
import Typewright.Proofs.Text.Pattern

/-!
# Types in brackets, line by line

The pattern of a bracket may run over the ends of lines before the bracket, and gives up characters
of a line until a closing bracket follows. What it keeps is said here without patterns: it is what
`lineBracket?` reads on the first line on which that reads anything (`bracket?_eq`). In the same
way the mark of a literal type is looked for at the start of every line (`hasLiteralMark_eq`).
-/

namespace Typewright.Annotations

open Text (Cursor Pattern dropBlanks isBlank lineRest lines)

/-! ## Reading a line -/

/-- The text before the last closing bracket of a line. -/
def beforeLastBracket : List Char → Option (List Char)
  | [] => none
  | c :: rest =>
      match beforeLastBracket rest with
      | some body => some (c :: body)
      | none => if c = ']' then some [] else none

/-- The type in brackets that a line starts with. -/
def lineBracket? (l : List Char) : Option (List Char) :=
  match dropBlanks l with
  | '[' :: rest => beforeLastBracket rest
  | '!' :: '[' :: rest => beforeLastBracket rest
  | _ => none

/-- The type in brackets at the very start of a text. -/
def openBracket? : List Char → Option (List Char)
  | '[' :: rest => beforeLastBracket rest
  | '!' :: '[' :: rest => beforeLastBracket rest
  | _ => none

/-- The type in brackets at the very start of a text, without a mark. -/
def bareBracket? : List Char → Option (List Char)
  | '[' :: rest => beforeLastBracket rest
  | _ => none

theorem bareBracket?_of_ne {cs : List Char} (other : cs.head? ≠ some '[') :
    bareBracket? cs = none := by
  rw [bareBracket?]
  rintro rest rfl
  exact other rfl

theorem openBracket?_mark (cs : List Char) : openBracket? ('!' :: cs) = bareBracket? cs := by
  by_cases bare : cs.head? = some '['
  · obtain ⟨rest, rfl⟩ := List.head?_eq_some_iff.1 bare
    rfl
  · rw [bareBracket?_of_ne bare, openBracket?]
    · rintro rest ⟨⟩
    · rintro rest ⟨⟩
      exact bare rfl

theorem openBracket?_of_ne {cs : List Char} (other : cs.head? ≠ some '!') :
    openBracket? cs = bareBracket? cs := by
  by_cases bare : cs.head? = some '['
  · obtain ⟨rest, rfl⟩ := List.head?_eq_some_iff.1 bare
    rfl
  · rw [bareBracket?_of_ne bare, openBracket?]
    · rintro rest rfl
      exact bare rfl
    · rintro rest rfl
      exact other rfl

theorem lineBracket?_eq (l : List Char) : lineBracket? l = openBracket? (dropBlanks l) := rfl

/-! ## Reading the pattern -/

/-- The run that is kept is given up until a closing bracket follows. -/
theorem head?_ends_kept (before : Option Char) (opened closed pre rest : List Char) :
    (((Cursor.along (· != '\n') before opened closed rest).reverse.map fun e =>
        { e with opened := pre ++ rest, closed := e.rest }).findSome? fun e =>
          ((Pattern.char ']').ends e).head?).map (·.kept) =
      (beforeLastBracket (lineRest rest)).map (pre ++ ·) := by
  induction rest generalizing before pre with
  | nil => rfl
  | cons c rest ih =>
      have here : (((Pattern.char ']').ends
          ⟨before, c :: rest, pre ++ c :: rest, c :: rest⟩).head?).map (·.kept) =
            if c = ']' then some pre else none := by
        by_cases hc : c = ']'
        · simp [Pattern.char, Pattern.ends, Cursor.kept, hc]
        · simp [Pattern.char, Pattern.ends, hc]
      rw [Cursor.along]
      by_cases feed : c = '\n'
      · have stops : lineRest (c :: rest) = [] := List.takeWhile_cons_of_neg (by simp [feed])
        rw [if_neg (by simp [feed]), List.reverse_singleton, List.map_singleton,
          List.findSome?_singleton, here, stops, feed]
        rfl
      · have later := ih (some c) (pre ++ [c])
        rw [List.append_assoc, List.singleton_append] at later
        rw [if_pos (by simpa using feed), List.reverse_cons, List.map_append,
          List.findSome?_append, Option.map_or, later, List.map_singleton,
          List.findSome?_singleton, here, Text.lineRest_cons feed, beforeLastBracket]
        cases beforeLastBracket (lineRest rest) with
        | none =>
            dsimp only [Option.map_none]
            rw [Option.none_or]
            split
            · simp
            · rfl
        | some body => simp

/-- Without a mark, the pattern of a bracket keeps what is read without patterns. -/
theorem head?_ends_bare (s : Cursor) :
    (((Pattern.seq (.char '[') <| .seq (.keep (.many (· != '\n'))) (.char ']')).ends s).head?).map
      (·.kept) = bareBracket? (lineRest s.rest) := by
  by_cases bare : s.rest.head? = some '['
  · obtain ⟨rest, next⟩ := List.head?_eq_some_iff.1 bare
    rw [Pattern.ends_seq_char next, Pattern.head?_ends_seq, next, Text.lineRest_cons (by decide),
      bareBracket?]
    exact (head?_ends_kept (some '[') s.opened s.closed [] rest).trans Option.map_id'
  · rw [Pattern.ends_seq_char_of_ne bare,
      bareBracket?_of_ne fun start => bare (Text.head?_of_head?_lineRest start)]
    rfl

theorem readsLine_bracket : bracketPattern.ReadsLine (·.kept) openBracket? where
  stuck := by
    intro s c hc blank
    have other (a : Char) (ink : isBlank a = false) : s.rest.head? ≠ some a := by
      intro ha
      rw [Option.mem_unique hc ha, ink] at blank
      cases blank
    rw [bracketPattern, Pattern.ends_seq_maybe, Pattern.ends_seq_char_of_ne (other '!' (by decide)),
      Pattern.ends_seq_char_of_ne (other '[' (by decide))]
    rfl
  nothing := rfl
  outcome := by
    intro s
    rw [bracketPattern, Pattern.ends_seq_maybe, List.head?_append, Option.map_or]
    by_cases marked : s.rest.head? = some '!'
    · obtain ⟨rest, next⟩ := List.head?_eq_some_iff.1 marked
      have bare : s.rest.head? ≠ some '[' := by rw [marked]; decide
      rw [Pattern.ends_seq_char next, head?_ends_bare, Pattern.ends_seq_char_of_ne bare, next,
        Text.lineRest_cons (by decide), openBracket?_mark]
      exact Option.or_none
    · rw [Pattern.ends_seq_char_of_ne marked, head?_ends_bare,
        openBracket?_of_ne fun start => marked (Text.head?_of_head?_lineRest start)]
      exact Option.none_or

theorem readsLine_mark : markPattern.ReadsLine (fun _ => ()) fun cs =>
    if cs.head? = some '!' then some () else none where
  stuck := by
    intro s c hc blank
    refine Pattern.ends_char_of_ne fun marked => ?_
    rw [Option.mem_unique hc marked] at blank
    exact absurd blank (by decide)
  nothing := rfl
  outcome := by
    intro s
    by_cases marked : s.rest.head? = some '!'
    · obtain ⟨rest, next⟩ := List.head?_eq_some_iff.1 marked
      rw [next, Text.lineRest_cons (by decide)]
      simp [markPattern, Pattern.char, Pattern.ends, next]
    · rw [markPattern, Pattern.ends_char_of_ne marked,
        if_neg fun start => marked (Text.head?_of_head?_lineRest start)]
      rfl

/-- The type in brackets is read from the first line that has one. -/
theorem bracket?_eq (doc : List Char) : bracket? doc = (lines doc).findSome? lineBracket? := by
  rw [bracket?, readsLine_bracket.find?_indented]
  exact congrArg (List.findSome? · (lines doc)) (funext fun l => (lineBracket?_eq l).symm)

/-- A mark is looked for on every line. -/
theorem hasLiteralMark_iff_head? (doc : List Char) :
    hasLiteralMark doc = true ↔ ∃ l ∈ lines doc, (dropBlanks l).head? = some '!' := by
  have found := congrArg Option.isSome (readsLine_mark.find?_indented doc)
  rw [Option.isSome_map, List.isSome_findSome?] at found
  simp [hasLiteralMark, found]

end Typewright.Annotations
