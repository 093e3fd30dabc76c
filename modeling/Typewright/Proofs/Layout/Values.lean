import Typewright.Proofs.Json.Scalars
import Typewright.Proofs.Layout.Pieces
import Typewright.Value.Display

/-!
# Values in tidy code

What is no text is written on one line, whatever is in it, and not with a blank at its end
(`trimmed_literal`): texts inside of it are quoted, and line feeds in them are escaped. A text is
written as it is. So a value keeps to its line if it holds no line feed as a text (`IsOneLine`), and
besides ends with no blank if it holds none (`IsWord`).
-/

namespace Typewright

open Text (isBlank)

/-! ## Words -/

namespace Layout

/-- A text without blanks. -/
def IsWord (s : String) : Prop := ∀ c ∈ s.toList, isBlank c = false

instance (s : String) : Decidable (IsWord s) := List.decidableBAll _ s.toList

/-- A text on one line that does not end with a blank. -/
def Trimmed (s : String) : Prop := s = "" ∨ IsLine s

section Words

variable {s t : String}

theorem IsWord.append (hs : IsWord s) (ht : IsWord t) : IsWord (s ++ t) := by
  intro c hc
  rw [String.toList_append, List.mem_append] at hc
  exact hc.elim (hs c) (ht c)

theorem isWord_ofList {l : List Char} (h : ∀ c ∈ l, isBlank c = false) :
    IsWord (String.ofList l) := by
  rwa [IsWord, String.toList_ofList]

theorem newline_not_mem {l : List Char} (h : ∀ c ∈ l, isBlank c = false) : '\n' ∉ l := by
  intro feed
  cases h '\n' feed

theorem IsWord.trimmed (h : IsWord s) : Trimmed s := by
  obtain empty | ⟨l, c, hc⟩ := List.eq_nil_or_concat' s.toList
  · exact Or.inl (String.toList_eq_nil_iff.1 empty)
  · rw [IsWord, hc] at h
    have line := isLine_of_concat (newline_not_mem h) (h c (by simp))
    rw [← hc, String.ofList_toList] at line
    exact Or.inr line

theorem IsLine.trimmed (h : IsLine s) : Trimmed s := Or.inr h

theorem Trimmed.oneLine (h : Trimmed s) : OneLine s := by
  obtain rfl | line := h
  · exact List.not_mem_nil
  · exact line.oneLine

theorem Trimmed.isLine (h : Trimmed s) (something : s ≠ "") : IsLine s := h.resolve_left something

theorem IsLine.append_trimmed (hs : IsLine s) (ht : Trimmed t) : IsLine (s ++ t) := by
  obtain rfl | line := ht
  · rwa [String.append_empty]
  · exact .append hs.oneLine line

theorem Trimmed.append (hs : Trimmed s) (ht : Trimmed t) : Trimmed (s ++ t) := by
  obtain rfl | line := hs
  · rwa [String.empty_append]
  · exact (line.append_trimmed ht).trimmed

end Words

end Layout

open Layout

/-! ## Numbers -/

theorem isBlank_digitChar (n : Nat) : isBlank n.digitChar = false := by
  by_cases h : n < 16
  · have digits : ∀ n < 16, isBlank n.digitChar = false := by decide
    exact digits n h
  · rw [Nat.digitChar_eq_star.2 (Nat.le_of_not_lt h)]
    decide

theorem isBlank_of_mem_toDigits {b n : Nat} {c : Char} (hb : 1 < b) (hc : c ∈ Nat.toDigits b n) :
    isBlank c = false := by
  induction n using Nat.strongRecOn with
  | ind n ih =>
      rw [Nat.toDigits_eq_if hb] at hc
      split at hc
      · rw [List.mem_singleton.1 hc]
        exact isBlank_digitChar n
      · rw [List.mem_append, List.mem_singleton] at hc
        obtain hc | rfl := hc
        · exact ih (n / b) (Nat.div_lt_self (by omega) hb) hc
        · exact isBlank_digitChar _

theorem isBlank_of_mem_hex {width n : Nat} {c : Char} (hc : c ∈ Text.hex width n) :
    isBlank c = false := by
  rw [Text.hex, List.mem_append, List.mem_replicate] at hc
  obtain ⟨_, rfl⟩ | hc := hc
  · decide
  · exact isBlank_of_mem_toDigits (by decide) hc

theorem isWord_int (n : Int) : IsWord (toString n) := by
  rw [IsWord, Json.toList_toString]
  intro c hc
  split at hc
  · obtain rfl | hc := List.mem_cons.1 hc
    · decide
    · exact isBlank_of_mem_toDigits (by decide) hc
  · exact isBlank_of_mem_toDigits (by decide) hc

namespace Double

theorem isWord_exponentText (e : Int) : IsWord (exponentText e) := by
  have size : IsWord (toString e.natAbs) := isWord_int e.natAbs
  refine IsWord.append ?_ ?_
  · split <;> decide
  · split
    · exact IsWord.append (by decide) size
    · exact size

theorem isWord_positional {digits : List Char} (h : ∀ c ∈ digits, isBlank c = false)
    (point : Int) : IsWord (positional digits point) := by
  have zero : isBlank '0' = false := by decide
  have dot : isBlank '.' = false := by decide
  unfold positional
  split
  · refine IsWord.append ?_ (isWord_exponentText _)
    match digits, h with
    | [], _ => decide
    | [c], h => exact isWord_ofList h
    | c :: d :: rest, h =>
        refine isWord_ofList fun x hx => ?_
        obtain rfl | rfl | hx : x = c ∨ x = '.' ∨ x ∈ d :: rest := by simpa using hx
        · exact h x List.mem_cons_self
        · exact dot
        · exact h x (List.mem_cons_of_mem c hx)
  · split
    · refine IsWord.append (by decide) (isWord_ofList fun x hx => ?_)
      rw [List.mem_append, List.mem_replicate] at hx
      obtain ⟨_, rfl⟩ | hx := hx
      · exact zero
      · exact h x hx
    · split
      · refine IsWord.append (isWord_ofList fun x hx => ?_) (by decide)
        rw [List.mem_append, List.mem_replicate] at hx
        obtain hx | ⟨_, rfl⟩ := hx
        · exact h x hx
        · exact zero
      · refine isWord_ofList fun x hx => ?_
        rw [List.mem_append, List.mem_cons] at hx
        obtain hx | rfl | hx := hx
        · exact h x (List.mem_of_mem_take hx)
        · exact dot
        · exact h x (List.mem_of_mem_drop hx)

theorem isWord_display (d : Double) : IsWord d.display := by
  have digits : ∀ c ∈ (Decimal.shortest d).normal.1, isBlank c = false := by
    intro c hc
    rw [Decimal.normal, List.mem_reverse] at hc
    have mem := (List.dropWhile_suffix _).subset hc
    exact isBlank_of_mem_toDigits (by decide) (List.mem_reverse.1 mem)
  have size : IsWord d.sizeText := by
    unfold sizeText
    split
    · decide
    · exact isWord_positional digits _
  unfold display
  split
  · decide
  · split
    · split <;> decide
    · refine IsWord.append ?_ size
      split <;> decide

end Double

/-! ## Texts between double quotes -/

theorem isLine_doubleQuoted {s : String} (h : OneLine s) : IsLine (Text.doubleQuoted s) := by
  have escaped : ∀ l : List Char, '\n' ∉ l → '\n' ∉ Text.escapeQuotes l := by
    intro l one
    induction l with
    | nil => exact one
    | cons c l ih =>
        rw [List.mem_cons, not_or] at one
        rw [Text.escapeQuotes]
        split
        · simpa [one.1] using ih one.2
        · simpa [one.1] using ih one.2
  rw [Text.doubleQuoted, Text.quoted, ← List.cons_append]
  exact isLine_of_concat (by simpa using escaped _ h) (by decide)

theorem newline_not_mem_asciiChar (c : Char) : '\n' ∉ Json.asciiChar c := by
  have number (n : Nat) : '\n' ∉ Json.numberedEscapeOf n := by
    rw [Json.numberedEscapeOf, List.mem_cons, List.mem_cons, not_or, not_or]
    refine ⟨by decide, by decide, fun feed => ?_⟩
    cases isBlank_of_mem_hex feed
  cases short : Json.shortEscape? c with
  | some cs =>
      obtain ⟨letter, rfl, _, escape⟩ := Json.shortEscape?_eq_some short
      rw [Json.asciiChar, short]
      rintro (_ | ⟨_, _ | ⟨_, ⟨⟩⟩⟩)
      cases escape
  | none =>
      rw [Json.asciiChar, short]
      dsimp only
      split_ifs with plain one
      · rw [List.mem_singleton]
        rintro rfl
        exact absurd plain.1 (by decide)
      · exact number _
      · rw [List.mem_append, not_or]
        exact ⟨number _, number _⟩

theorem oneLine_asciiText (s : String) : OneLine (Json.asciiText s) := by
  rw [OneLine, Json.asciiText, String.toList_ofList, ← List.cons_append]
  intro feed
  rw [List.mem_append, List.mem_cons, List.mem_flatMap, List.mem_singleton] at feed
  obtain (h | ⟨c, _, h⟩) | h := feed
  · cases h
  · exact newline_not_mem_asciiChar c h
  · cases h

/-! ## Values that are no texts -/

theorem newline_not_mem_literalChar {quote : Char} (hq : quote ≠ '\n') (c : Char) :
    '\n' ∉ Text.literalChar quote c := by
  have hex (mark : Char) (hm : mark ≠ '\n') (width n : Nat) :
      '\n' ∉ '\\' :: mark :: Text.hex width n := by
    intro feed
    obtain h | h | h : '\n' = '\\' ∨ '\n' = mark ∨ '\n' ∈ Text.hex width n := by simpa using feed
    · cases h
    · exact hm h.symm
    · cases isBlank_of_mem_hex h
  unfold Text.literalChar
  split_ifs with escaped feed ret tab printable
  · obtain rfl | rfl := escaped
    · simp [hq.symm]
    · decide
  · decide
  · decide
  · decide
  · simpa using Ne.symm feed
  · exact hex 'x' (by decide) _ _
  · exact hex 'u' (by decide) _ _
  · exact hex 'U' (by decide) _ _

theorem isLine_literal_text (s : String) : IsLine (Text.literal s) := by
  have quote : Text.quoteFor s.toList = '"' ∨ Text.quoteFor s.toList = '\'' := by
    rw [Text.quoteFor]
    split
    · exact Or.inl rfl
    · exact Or.inr rfl
  have noFeed : Text.quoteFor s.toList ≠ '\n' := by
    obtain h | h := quote <;> rw [h] <;> decide
  rw [Text.literal, ← List.cons_append]
  refine isLine_of_concat ?_ ?_
  · intro feed
    rw [List.mem_append, List.mem_cons, List.mem_flatMap, List.mem_singleton] at feed
    obtain (h | ⟨c, _, h⟩) | h := feed
    · exact noFeed h.symm
    · exact newline_not_mem_literalChar noFeed c h
    · exact noFeed h.symm
  · obtain h | h := quote <;> rw [h] <;> decide

namespace Value

mutual

/-- What is written of a value that is no text is one line without a blank at its end. -/
theorem trimmed_literal : ∀ v : Value, Trimmed v.literal
  | null => IsWord.trimmed (by decide)
  | bool b => by cases b <;> exact IsWord.trimmed (by decide)
  | int n => by rw [literal]; exact (isWord_int n).trimmed
  | double d => by rw [literal]; exact d.isWord_display.trimmed
  | str s => by rw [literal]; exact (isLine_literal_text s).trimmed
  | list vs => by
      rw [literal]
      refine (IsLine.append ?_ (by decide)).trimmed
      exact oneLine_append.2 ⟨by decide, oneLine_intercalate (by decide) (oneLine_literals vs)⟩
  | object es => by
      rw [literal]
      refine (IsLine.append ?_ (by decide)).trimmed
      exact oneLine_append.2 ⟨by decide, oneLine_intercalate (by decide) (oneLine_entryLiterals es)⟩

theorem oneLine_literals : ∀ (vs : List Value), ∀ s ∈ literals vs, OneLine s
  | [] => fun s hs => by cases hs
  | v :: vs => by
      rw [literals, List.forall_mem_cons]
      exact ⟨(trimmed_literal v).oneLine, oneLine_literals vs⟩

theorem oneLine_entryLiterals : ∀ (es : List (String × Value)), ∀ s ∈ entryLiterals es, OneLine s
  | [] => fun s hs => by cases hs
  | (name, v) :: es => by
      rw [entryLiterals, List.forall_mem_cons, oneLine_append, oneLine_append]
      exact ⟨⟨⟨(isLine_literal_text name).oneLine, by decide⟩, (trimmed_literal v).oneLine⟩,
        oneLine_entryLiterals es⟩

end

/-! ## Values without blanks -/

/-- A value that holds no line feed, as far as it is a text. -/
def IsOneLine : Value → Prop
  | str s => OneLine s
  | _ => True

/-- A value that holds no blank, as far as it is a text. -/
def IsWord : Value → Prop
  | str s => Layout.IsWord s
  | _ => True

instance : (v : Value) → Decidable v.IsOneLine
  | str s => inferInstanceAs (Decidable (OneLine s))
  | null | bool _ | int _ | double _ | list _ | object _ => isTrue trivial

instance : (v : Value) → Decidable v.IsWord
  | str s => inferInstanceAs (Decidable (Layout.IsWord s))
  | null | bool _ | int _ | double _ | list _ | object _ => isTrue trivial

theorem IsOneLine.display {v : Value} (h : v.IsOneLine) : OneLine v.display := by
  cases v with
  | str s => exact h
  | _ => exact (trimmed_literal _).oneLine

theorem IsWord.display {v : Value} (h : v.IsWord) : Trimmed v.display := by
  cases v with
  | str s => exact Layout.IsWord.trimmed h
  | _ => exact trimmed_literal _

theorem IsOneLine.quoted {v : Value} (h : v.IsOneLine) : IsLine v.quoted :=
  isLine_doubleQuoted h.display

theorem IsWord.isOneLine {v : Value} (h : v.IsWord) : v.IsOneLine := by
  cases v with
  | str s => exact newline_not_mem h
  | _ => exact trivial

end Value

end Typewright
