import Typewright.Proofs.Json.Scalars

/-!
# Steps of the reader of JSON texts

Each way to read a list or an object, from the ways to read what it starts with and what comes after
that. What the reader skips before each part is given as an equation on `skipSpace`.
-/

namespace Typewright.Json

variable {halves : Text.Halves} {room : Nat} {cs text after next rest : List Char} {v : Value}

theorem length_of_skipSpace (blanks : (skipSpace cs).1 = text) : text.length ≤ cs.length :=
  blanks ▸ (skipSpace cs).2

theorem value_text {s : String} (read : Reads (textAfter halves ('"' :: cs) [] cs) s rest) :
    Reads (value halves room ('"' :: cs)) (.str s) rest := by
  obtain ⟨shorter, read⟩ := read
  refine ⟨Nat.lt_succ_of_lt shorter, ?_⟩
  rw [value, read]

theorem value_scalar {c : Char} (other : c ≠ '"' ∧ c ≠ '[' ∧ c ≠ '\x7b')
    (read : Reads (scalar (c :: cs)) v rest) : Reads (value halves room (c :: cs)) v rest := by
  obtain ⟨shorter, read⟩ := read
  refine ⟨shorter, ?_⟩
  rw [value, read]
  all_goals simp [other]

/-! ## Lists -/

theorem value_list_nil : Reads (value halves (room + 1) ('[' :: ']' :: rest)) (.list []) rest := by
  refine ⟨by simp only [List.length_cons]; omega, ?_⟩
  rw [value]
  rfl

theorem value_list_cons (blanks : (skipSpace cs).1 = text) (more : ∀ tail, text ≠ ']' :: tail)
    {vs : List Value} (read : Reads (items halves room [] text) vs rest) :
    Reads (value halves (room + 1) ('[' :: cs)) (.list vs) rest := by
  have length := length_of_skipSpace blanks
  subst blanks
  obtain ⟨shorter, read⟩ := read
  refine ⟨by simp only [List.length_cons]; omega, ?_⟩
  rw [value]
  split
  next found => exact absurd found (more _)
  next => rw [read]

theorem items_last {done : List Value} (item : Reads (value halves room cs) v after)
    (blanks : (skipSpace after).1 = ']' :: rest) :
    Reads (items halves room done cs) (v :: done).reverse rest := by
  have length := length_of_skipSpace blanks
  obtain ⟨shorter, item⟩ := item
  rw [List.length_cons] at length
  refine ⟨by omega, ?_⟩
  rw [items, item]
  dsimp only
  split
  next found => cases blanks.symm.trans found; rfl
  next found => cases blanks.symm.trans found
  next other _ => exact absurd blanks (other rest)

theorem items_cons {done vs : List Value} (item : Reads (value halves room cs) v after)
    (comma : (skipSpace after).1 = ',' :: next) (blanks : (skipSpace next).1 = text)
    (read : Reads (items halves room (v :: done) text) vs rest) :
    Reads (items halves room done cs) vs rest := by
  have length := length_of_skipSpace comma
  have length' := length_of_skipSpace blanks
  subst blanks
  obtain ⟨shorter, item⟩ := item
  obtain ⟨shorter', read⟩ := read
  rw [List.length_cons] at length
  refine ⟨by omega, ?_⟩
  rw [items, item]
  dsimp only
  split
  next found => cases comma.symm.trans found
  next found =>
    cases comma.symm.trans found
    rw [read]
  next _ other => exact absurd comma (other next)

/-! ## Objects -/

theorem value_object_nil :
    Reads (value halves (room + 1) ('\x7b' :: '\x7d' :: rest)) (.object []) rest := by
  refine ⟨by simp only [List.length_cons]; omega, ?_⟩
  rw [value]
  rfl

theorem value_object_cons (blanks : (skipSpace cs).1 = text) (more : ∀ tail, text ≠ '\x7d' :: tail)
    {es : Entries} (read : Reads (entries halves room [] text) es rest) :
    Reads (value halves (room + 1) ('\x7b' :: cs)) (.object es) rest := by
  have length := length_of_skipSpace blanks
  subst blanks
  obtain ⟨shorter, read⟩ := read
  refine ⟨by simp only [List.length_cons]; omega, ?_⟩
  rw [value]
  split
  next found => exact absurd found (more _)
  next => rw [read]

section entries

variable {done es : Entries} {name : String} {afterName afterColon : List Char}

theorem entries_last (key : Reads (textAfter halves ('"' :: cs) [] cs) name afterName)
    (colon : (skipSpace afterName).1 = ':' :: afterColon) (blanks : (skipSpace afterColon).1 = text)
    (item : Reads (value halves room text) v after) (brace : (skipSpace after).1 = '\x7d' :: rest) :
    Reads (entries halves room done ('"' :: cs)) (done.put name v) rest := by
  have length := length_of_skipSpace colon
  have length' := length_of_skipSpace blanks
  have length'' := length_of_skipSpace brace
  subst blanks
  obtain ⟨shorter, key⟩ := key
  obtain ⟨shorter', item⟩ := item
  refine ⟨by simp only [List.length_cons] at *; omega, ?_⟩
  rw [entries, key]
  dsimp only
  split
  next found =>
    cases colon.symm.trans found
    rw [item]
    dsimp only
    split
    next found => cases brace.symm.trans found; rfl
    next found => cases brace.symm.trans found
    next other _ => exact absurd brace (other rest)
  next other => exact absurd colon (other afterColon)

theorem entries_cons (key : Reads (textAfter halves ('"' :: cs) [] cs) name afterName)
    (colon : (skipSpace afterName).1 = ':' :: afterColon) (blanks : (skipSpace afterColon).1 = text)
    (item : Reads (value halves room text) v after) {text' : List Char}
    (comma : (skipSpace after).1 = ',' :: next) (blanks' : (skipSpace next).1 = text')
    (read : Reads (entries halves room (done.put name v) text') es rest) :
    Reads (entries halves room done ('"' :: cs)) es rest := by
  have length := length_of_skipSpace colon
  have length' := length_of_skipSpace blanks
  have length'' := length_of_skipSpace comma
  have length''' := length_of_skipSpace blanks'
  subst blanks blanks'
  obtain ⟨shorter, key⟩ := key
  obtain ⟨shorter', item⟩ := item
  obtain ⟨shorter'', read⟩ := read
  refine ⟨by simp only [List.length_cons] at *; omega, ?_⟩
  rw [entries, key]
  dsimp only
  split
  next found =>
    cases colon.symm.trans found
    rw [item]
    dsimp only
    split
    next found => cases comma.symm.trans found
    next found =>
      cases comma.symm.trans found
      rw [read]
    next _ other => exact absurd comma (other next)
  next other => exact absurd colon (other afterColon)

end entries

end Typewright.Json
