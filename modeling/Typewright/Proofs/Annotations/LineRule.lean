import Typewright.Proofs.Annotations.Brackets
import Typewright.Proofs.Annotations.Tags

/-!
# The rule of lines

Where a documentation has no tag, its lines decide. It has an annotation if and only if some line
starts, after blanks, with a bracket or a marked bracket that is closed on that line. Without a
namespace the type is what stands between the bracket and the last closing bracket of the first such
line, in parentheses, and it is unknown if nothing stands there or there is no such line
(`annotated_by_lines`).
-/

namespace Typewright.Annotations

open Text (dropBlanks lines)

/-! ## Lines that qualify -/

/-- Whether a line starts, after blanks, with a bracket or a marked bracket that is closed on the
line. -/
def Qualifies (line : List Char) : Prop :=
  ∃ mark rest, (mark = [] ∨ mark = ['!']) ∧ dropBlanks line = mark ++ '[' :: rest ∧ ']' ∈ rest

/-- Whether a text stands between the bracket at the start of a line and the last closing bracket of
the line. -/
def Encloses (line body : List Char) : Prop :=
  ∃ mark after, (mark = [] ∨ mark = ['!']) ∧
    dropBlanks line = mark ++ '[' :: (body ++ ']' :: after) ∧ ']' ∉ after

/-! ## What is read of a line -/

section Reading

variable {cs line body : List Char}

theorem beforeLastBracket_eq_none (open_end : ']' ∉ cs) : beforeLastBracket cs = none := by
  induction cs with
  | nil => rfl
  | cons c rest ih =>
      rw [List.mem_cons, not_or] at open_end
      rw [beforeLastBracket, ih open_end.2]
      exact if_neg (Ne.symm open_end.1)

theorem beforeLastBracket_append {after : List Char} (last : ']' ∉ after) :
    beforeLastBracket (body ++ ']' :: after) = some body := by
  induction body with
  | nil =>
      rw [List.nil_append, beforeLastBracket, beforeLastBracket_eq_none last]
      rfl
  | cons c body ih => rw [List.cons_append, beforeLastBracket, ih]

/-- A text with a closing bracket has a last one. -/
theorem exists_last_bracket (h : ']' ∈ cs) :
    ∃ body after, cs = body ++ ']' :: after ∧ ']' ∉ after := by
  induction cs with
  | nil => cases h
  | cons c rest ih =>
      by_cases later : ']' ∈ rest
      · obtain ⟨body, after, rfl, last⟩ := ih later
        exact ⟨c :: body, after, rfl, last⟩
      · have here : ']' = c := (List.mem_cons.1 h).resolve_right later
        exact ⟨[], rest, by rw [here, List.nil_append], later⟩

theorem beforeLastBracket_eq_some_iff :
    beforeLastBracket cs = some body ↔ ∃ after, cs = body ++ ']' :: after ∧ ']' ∉ after := by
  constructor
  · intro read
    by_cases h : ']' ∈ cs
    · obtain ⟨inner, after, rfl, last⟩ := exists_last_bracket h
      rw [beforeLastBracket_append last] at read
      cases read
      exact ⟨after, rfl, last⟩
    · rw [beforeLastBracket_eq_none h] at read
      cases read
  · rintro ⟨after, rfl, last⟩
    exact beforeLastBracket_append last

theorem lineBracket?_eq_some_iff : lineBracket? line = some body ↔ Encloses line body := by
  constructor
  · intro read
    rw [lineBracket?] at read
    split at read
    · next rest start =>
        obtain ⟨after, rfl, last⟩ := beforeLastBracket_eq_some_iff.1 read
        exact ⟨[], after, Or.inl rfl, start, last⟩
    · next rest start =>
        obtain ⟨after, rfl, last⟩ := beforeLastBracket_eq_some_iff.1 read
        exact ⟨['!'], after, Or.inr rfl, start, last⟩
    · cases read
  · rintro ⟨mark, after, rfl | rfl, start, last⟩
    · rw [lineBracket?, start]
      exact beforeLastBracket_append last
    · rw [lineBracket?, start]
      exact beforeLastBracket_append last

theorem qualifies_iff : Qualifies line ↔ ∃ body, Encloses line body := by
  constructor
  · rintro ⟨mark, rest, marked, start, closed⟩
    obtain ⟨body, after, rfl, last⟩ := exists_last_bracket closed
    exact ⟨body, mark, after, marked, start, last⟩
  · rintro ⟨body, mark, after, marked, start, last⟩
    exact ⟨mark, _, marked, start, List.mem_append_right body List.mem_cons_self⟩

theorem lineBracket?_eq_none_iff : lineBracket? line = none ↔ ¬ Qualifies line := by
  rw [qualifies_iff, Option.eq_none_iff_forall_ne_some, not_exists]
  exact forall_congr' fun body => lineBracket?_eq_some_iff.not

end Reading

/-! ## What is read of a documentation -/

theorem bracket?_eq_none_iff {doc : List Char} :
    bracket? doc = none ↔ ∀ l ∈ lines doc, ¬ Qualifies l := by
  rw [bracket?_eq, List.findSome?_eq_none_iff]
  exact forall₂_congr fun _ _ => lineBracket?_eq_none_iff

theorem present_str (doc : String) : present (.str doc) = .ok (isAnnotated doc.toList) := by
  by_cases nothing : doc = ""
  · rw [nothing]
    rfl
  · have set : (Value.str doc).truthy = true := by simpa [Value.truthy] using nothing
    rw [present, if_pos set]
    rfl

theorem isAnnotated_iff {doc : List Char} (untagged : ¬ tagWord <:+: doc) :
    isAnnotated doc = true ↔ ∃ l ∈ lines doc, Qualifies l := by
  rw [isAnnotated, tag?_eq_none untagged, Option.isSome_none, Bool.or_false,
    ← Option.ne_none_iff_isSome, ne_eq, bracket?_eq_none_iff]
  simp only [not_forall, not_not, exists_prop]

/-- Without a namespace a type in brackets is taken as it is written. -/
theorem ofBracket_of_unset {c : Config} (unset : c.flag .namespaceType = false) {doc body : List Char}
    (found : bracket? doc = some body) :
    ofBracket c doc = if body = [] then "unknown" else "(" ++ String.ofList body ++ ")" := by
  rw [ofBracket, found]
  cases body with
  | nil => rfl
  | cons a body =>
      dsimp only
      rw [qualified, unset, Bool.not_false, Bool.or_true, if_pos rfl, if_neg (List.cons_ne_nil a body),
        ← grouped_toList, String.toList_ofList]

/-- Without a tag, the lines decide whether a documentation has an annotation, and without a
namespace the first line that qualifies gives the type. -/
theorem annotated_by_lines {doc : String} (untagged : ¬ tagWord <:+: doc.toList) :
    (∃ b, present (.str doc) = .ok b ∧ (b = true ↔ ∃ l ∈ lines doc.toList, Qualifies l)) ∧
      ∀ c : Config, c.flag .namespaceType = false →
        ((∀ l ∈ lines doc.toList, ¬ Qualifies l) → resolve c doc.toList = "unknown") ∧
        ∀ before line after body, lines doc.toList = before ++ line :: after →
          (∀ l ∈ before, ¬ Qualifies l) → Encloses line body →
          resolve c doc.toList =
            if body = [] then "unknown" else "(" ++ String.ofList body ++ ")" := by
  refine ⟨⟨_, present_str doc, isAnnotated_iff untagged⟩, fun c unset => ?_⟩
  have decides : resolve c doc.toList = ofBracket c doc.toList := by
    rw [resolve, tag?_eq_none untagged]
  rw [decides]
  constructor
  · intro none
    rw [ofBracket, bracket?_eq_none_iff.2 none]
  · intro before line after body split others encloses
    have first : FirstBracket doc.toList before line after body :=
      ⟨split, fun l hl => lineBracket?_eq_none_iff.2 (others l hl),
        lineBracket?_eq_some_iff.2 encloses⟩
    exact ofBracket_of_unset unset first.bracket?_eq

/-- The first line that qualifies stands after an empty one, and is neither the first that has
brackets nor the last that qualifies. -/
theorem shelves_annotated_by_lines :
    ¬ tagWord <:+: "See [1].\n\n \t![Shelf[]] (or [Box])\n[Tag]".toList ∧
      present (.str "See [1].\n\n \t![Shelf[]] (or [Box])\n[Tag]") = .ok true ∧
      resolve Config.default "See [1].\n\n \t![Shelf[]] (or [Box])\n[Tag]".toList =
        "(Shelf[]] (or [Box)" := by
  have untagged : ¬ tagWord <:+: "See [1].\n\n \t![Shelf[]] (or [Box])\n[Tag]".toList := by
    decide +kernel
  have encloses : Encloses " \t![Shelf[]] (or [Box])".toList "Shelf[]] (or [Box".toList :=
    ⟨['!'], [')'], Or.inr rfl, by decide, by decide⟩
  obtain ⟨⟨b, annotated, iff_line⟩, types⟩ := annotated_by_lines untagged
  have qualifies : ∃ l ∈ lines "See [1].\n\n \t![Shelf[]] (or [Box])\n[Tag]".toList, Qualifies l :=
    ⟨_, by decide +kernel, qualifies_iff.2 ⟨_, encloses⟩⟩
  refine ⟨untagged, ?_, ?_⟩
  · rw [annotated, iff_line.2 qualifies]
  · refine (types Config.default rfl).2 ["See [1].".toList, []] _ ["[Tag]".toList] _ (by decide +kernel)
      ?_ encloses
    intro l hl
    rw [← lineBracket?_eq_none_iff]
    revert l
    decide +kernel

end Typewright.Annotations
