import Typewright.Text.Quoted

/-!
# Quotations in a text

The *quotations* of a text are what stands in it between double quotes, from left to right. Inside of
a quotation there are two escapes: a backslash before a double quote and a backslash before a
backslash. Any other use of a backslash is an error, as is a quotation that does not end.

What a piece of text adds to the quotations of the text that it begins is said by `Quotes`. Pieces
are put together by `Quotes.append`: a piece without double quotes adds nothing, and a text between
double quotes adds itself, whatever is in it (`quotes_doubleQuoted`).
-/

namespace Typewright.Text

/-! ## Reading quotations -/

/-- Where a reader of quotations stands. -/
inductive QuotationSpot where
  | outside
  /-- Inside of a quotation, of which this was read. -/
  | inside (read : List Char)
  /-- Inside of a quotation, after a backslash that escapes what comes next. -/
  | escaped (read : List Char)

/-- The quotations that are read from a spot on, if there is no error. -/
def quotationsFrom : QuotationSpot → List Char → Option (List (List Char))
  | .outside, [] => some []
  | .outside, c :: rest => quotationsFrom (if c = '"' then .inside [] else .outside) rest
  | .inside _, [] => none
  | .inside read, c :: rest =>
      if c = '"' then (quotationsFrom .outside rest).map (read :: ·)
      else quotationsFrom (if c = '\\' then .escaped read else .inside (read ++ [c])) rest
  | .escaped _, [] => none
  | .escaped read, c :: rest =>
      if c = '"' ∨ c = '\\' then quotationsFrom (.inside (read ++ [c])) rest else none

/-- The quotations of a text, if it can be read. -/
def quotations (s : String) : Option (List String) :=
  (quotationsFrom .outside s.toList).map (List.map String.ofList)

/-- An escaped text is read up to the double quote after it. -/
theorem quotationsFrom_escapeQuotes (cs rest : List Char) : ∀ read : List Char,
    quotationsFrom (.inside read) (escapeQuotes cs ++ '"' :: rest) =
      (quotationsFrom .outside rest).map ((read ++ cs) :: ·) := by
  induction cs with
  | nil =>
      intro read
      rw [escapeQuotes, List.nil_append, quotationsFrom, if_pos rfl, List.append_nil]
  | cons c cs ih =>
      intro read
      have whole : read ++ c :: cs = (read ++ [c]) ++ cs := by simp
      rw [escapeQuotes, whole, ← ih]
      by_cases special : c = '"' ∨ c = '\\'
      · rw [if_pos special, List.cons_append, List.cons_append, quotationsFrom,
          if_neg (by decide), if_pos rfl, quotationsFrom, if_pos special]
      · obtain ⟨noQuote, noBackslash⟩ := not_or.1 special
        rw [if_neg special, List.cons_append, quotationsFrom, if_neg noQuote, if_neg noBackslash]

/-! ## Quotations of pieces -/

/-- A piece of text adds quotations to those of whatever text comes after it. -/
def Quotes (s : String) (found : List String) : Prop :=
  ∀ rest, quotationsFrom .outside (s.toList ++ rest) =
    (quotationsFrom .outside rest).map (found.map String.toList ++ ·)

theorem Quotes.quotations_eq {s : String} {found : List String} (h : Quotes s found) :
    quotations s = some found := by
  have whole := h []
  rw [List.append_nil, quotationsFrom, Option.map_some, List.append_nil] at whole
  rw [quotations, whole, Option.map_some, List.map_map]
  simp

theorem Quotes.append {s t : String} {ss ts : List String} (hs : Quotes s ss) (ht : Quotes t ts) :
    Quotes (s ++ t) (ss ++ ts) := by
  intro rest
  rw [String.toList_append, List.append_assoc, hs, ht, Option.map_map, List.map_append]
  simp [Function.comp_def]

/-- A piece without double quotes adds nothing. -/
theorem quotes_plain {s : String} (h : '"' ∉ s.toList) : Quotes s [] := by
  intro rest
  rw [List.map_nil]
  generalize s.toList = cs at h
  induction cs with
  | nil => simp
  | cons c cs ih =>
      rw [List.mem_cons, not_or] at h
      rw [List.cons_append, quotationsFrom, if_neg (Ne.symm h.1)]
      exact ih h.2

/-- A text between double quotes adds itself, whatever is in it. -/
theorem quotes_doubleQuoted (s : String) : Quotes (doubleQuoted s) [s] := by
  intro rest
  have quoted : (doubleQuoted s).toList ++ rest = '"' :: (escapeQuotes s.toList ++ '"' :: rest) := by
    simp [doubleQuoted, Text.quoted]
  rw [quoted, quotationsFrom, if_pos rfl, quotationsFrom_escapeQuotes]
  rfl

/-- Pieces that add one quotation each add them in order, if what is between them adds none. -/
theorem quotes_intercalate {α : Type} {between : String} {piece text : α → String} {items : List α}
    (hb : Quotes between []) (h : ∀ a ∈ items, Quotes (piece a) [text a]) :
    Quotes (String.intercalate between (items.map piece)) (items.map text) := by
  induction items with
  | nil => exact quotes_plain List.not_mem_nil
  | cons a items ih =>
      have first := h a List.mem_cons_self
      cases items with
      | nil => rwa [List.map_singleton, String.intercalate_singleton]
      | cons b items =>
          have rest := ih fun x hx => h x (List.mem_cons_of_mem a hx)
          rw [List.map_cons, List.map_cons, String.intercalate_cons_cons]
          exact (first.append hb).append rest

end Typewright.Text
