import Mathlib.Data.List.Basic
import Mathlib.Tactic.IntervalCases
import Typewright.Json.Reader
import Typewright.Json.Writer

/-!
# Reading the scalars that are written

A text is read from what is written for it up to its closing quote, whatever comes after that
(`textAfter_flatMap`). A word or a number is read up to something that does not go on with a number
(`Ends`).

What is read need not have been written. An escape for half of a pair that stands alone is no
mistake, but the text it is read in cannot be encoded (`encodes_of_half`).
-/

namespace Typewright.Json

variable {halves : Text.Halves}

/-- Whether something is read and so much of the text is left. -/
def Reads {α : Type} {cs : List Char} (r : Except Failure (α × Shorter cs)) (a : α)
    (rest : List Char) : Prop :=
  ∃ shorter, r = .ok (a, ⟨rest, shorter⟩)

/-! ## Texts -/

theorem numbered?_eq_some {cs rest : List Char} {n : Nat} (h : numbered? cs = some (n, rest)) :
    ∃ a b c d, cs = a :: b :: c :: d :: rest ∧ hex4? a b c d = some n := by
  unfold numbered? at h
  split at h
  · obtain ⟨m, number, same⟩ := Option.map_eq_some_iff.1 h
    cases same
    exact ⟨_, _, _, _, rfl, number⟩
  · cases h

/-- A control character is written with the four digits that are read as its number. -/
theorem numbered?_hex {n : Nat} (control : n < 32) (c : Char) (rest : List Char) :
    numbered? (Text.hex 4 n ++ c :: rest) = some (n, c :: rest) := by
  have quoted : ∀ n < 32, numbered? (Text.hex 4 n ++ ['"']) = some (n, ['"']) := by
    decide +kernel
  obtain ⟨a, b, c', d, whole, number⟩ := numbered?_eq_some (quoted n control)
  have digits : Text.hex 4 n = [a, b, c', d] := List.append_cancel_right whole
  simp only [digits, List.cons_append, List.nil_append, numbered?, number, Option.map_some]

/-- An escape is read by itself unless it names a first half and the second one comes after it. -/
theorem numberedEscape_alone (halves : Text.Halves) {cs rest : List Char} {n : Nat}
    (number : numbered? cs = some (n, rest))
    (alone : Text.isHighHalf n = true → lowHalf? rest = none) :
    ∃ shorter, numberedEscape halves cs = some (unitChar halves n, ⟨rest, shorter⟩) := by
  refine ⟨numbered?_length number, ?_⟩
  unfold numberedEscape
  split
  next h =>
    rw [number] at h
    cases h
  next m after h =>
    rw [number] at h
    cases h
    split
    next low =>
      rw [if_neg]
      intro high
      rw [alone high] at low
      cases low
    next => rfl

theorem numberedEscape_hex (halves : Text.Halves) {n : Nat} (control : n < 32) (c : Char)
    (rest : List Char) :
    ∃ shorter, numberedEscape halves (Text.hex 4 n ++ c :: rest) =
      some (Char.ofNat n, ⟨c :: rest, shorter⟩) := by
  have whole : ¬Text.isHalf n = true := by
    rw [Text.Halves.isHalf_iff]
    omega
  have alone : Text.isHighHalf n = true → lowHalf? (c :: rest) = none := fun high =>
    absurd (Bool.or_eq_true_iff.2 (.inl high)) whole
  have unit : unitChar halves n = Char.ofNat n := if_neg whole
  rw [← unit]
  exact numberedEscape_alone halves (numbered?_hex control c rest) alone

theorem shortEscape?_eq_some {c : Char} {cs : List Char} (short : shortEscape? c = some cs) :
    ∃ letter, cs = ['\\', letter] ∧ letter ≠ 'u' ∧ simpleEscape? letter = some c := by
  unfold shortEscape? at short
  split at short
  all_goals
    cases short
    try exact ⟨_, rfl, by decide, rfl⟩

theorem shortEscape?_eq_none {c : Char} (short : shortEscape? c = none) :
    c ≠ '"' ∧ c ≠ '\\' ∧ c ≠ '\r' := by
  refine ⟨?_, ?_, ?_⟩
  all_goals
    rintro rfl
    cases short

/-- No character is written with a carriage return. -/
theorem carriageReturn_not_mem_plainChar (c : Char) : '\r' ∉ plainChar c := by
  cases short : shortEscape? c with
  | some cs =>
      obtain ⟨letter, rfl, _, escape⟩ := shortEscape?_eq_some short
      rw [plainChar, short]
      rintro (_ | ⟨_, _ | ⟨_, ⟨⟩⟩⟩)
      cases escape
  | none =>
      rw [plainChar, short]
      dsimp only
      by_cases control : c < ' '
      · have digits : ∀ n < 32, '\r' ∉ numberedEscapeOf n := by decide +kernel
        rw [if_pos control]
        exact digits _ control
      · rw [if_neg control, List.mem_singleton]
        exact (shortEscape?_eq_none short).2.2.symm

section textAfter

variable {opening done tail rest : List Char} {s : String}

theorem textAfter_simpleEscape {letter c : Char} (escape : simpleEscape? letter = some c)
    (simple : letter ≠ 'u') (read : Reads (textAfter halves opening (c :: done) tail) s rest) :
    Reads (textAfter halves opening done ('\\' :: letter :: tail)) s rest := by
  obtain ⟨shorter, read⟩ := read
  refine ⟨?_, ?_⟩
  · simp only [List.length_cons]
    omega
  rw [textAfter]
  · simp only [escape, read]
  · exact simple

theorem textAfter_numberedEscape {after : List Char} {c : Char} {shorter}
    (escape : numberedEscape halves tail = some (c, ⟨after, shorter⟩))
    (read : Reads (textAfter halves opening (c :: done) after) s rest) :
    Reads (textAfter halves opening done ('\\' :: 'u' :: tail)) s rest := by
  obtain ⟨shorter', read⟩ := read
  refine ⟨?_, ?_⟩
  · simp only [List.length_cons]
    omega
  rw [textAfter]
  simp only [escape, read]

theorem textAfter_cons {c : Char} (quote : c ≠ '"') (backslash : c ≠ '\\') (control : ¬c < ' ')
    (read : Reads (textAfter halves opening (c :: done) tail) s rest) :
    Reads (textAfter halves opening done (c :: tail)) s rest := by
  obtain ⟨shorter, read⟩ := read
  refine ⟨?_, ?_⟩
  · simp only [List.length_cons]
    omega
  rw [textAfter]
  · rw [if_neg control]
    simp only [read]
  · simp [quote]
  · simp [backslash]
  · simp [backslash]
  · simp [backslash]

theorem textAfter_plainChar {c : Char} (more : tail ≠ [])
    (read : Reads (textAfter halves opening (c :: done) tail) s rest) :
    Reads (textAfter halves opening done (plainChar c ++ tail)) s rest := by
  cases short : shortEscape? c with
  | some cs =>
      obtain ⟨letter, rfl, simple, escape⟩ := shortEscape?_eq_some short
      rw [plainChar, short]
      exact textAfter_simpleEscape escape simple read
  | none =>
      obtain ⟨quote, backslash, _⟩ := shortEscape?_eq_none short
      obtain ⟨d, tail, rfl⟩ := List.exists_cons_of_ne_nil more
      rw [plainChar, short]
      dsimp only
      by_cases control : c < ' '
      · obtain ⟨_, escape⟩ := numberedEscape_hex halves (n := c.toNat) control d tail
        rw [Char.ofNat_toNat] at escape
        rw [if_pos control]
        exact textAfter_numberedEscape escape read
      · rw [if_neg control]
        exact textAfter_cons quote backslash control read

/-- What is written between the quotes of a text is read as its characters. -/
theorem textAfter_flatMap (halves : Text.Halves) (opening done cs rest : List Char) :
    Reads (textAfter halves opening done (cs.flatMap plainChar ++ '"' :: rest))
      (String.ofList (done.reverse ++ cs)) rest := by
  induction cs generalizing done with
  | nil =>
      rw [List.flatMap_nil, List.nil_append, List.append_nil]
      exact ⟨Nat.lt_succ_self _, by rw [textAfter]⟩
  | cons c cs ih =>
      have read := ih (c :: done)
      rw [List.reverse_cons, List.append_assoc, List.singleton_append] at read
      rw [List.flatMap_cons, List.append_assoc]
      exact textAfter_plainChar (by simp) read

/-! ### Halves of pairs -/

/-- The characters that have been read are in the text. -/
theorem subset_of_textAfter {cs : List Char} {last : Shorter cs}
    (read : textAfter halves opening done cs = .ok (s, last)) : done ⊆ s.toList := by
  -- The text ends, or goes on with one more character (cases 6, 9 and 12), or is not read.
  fun_induction textAfter halves opening done cs with
  | case2 done rest =>
      cases read
      simp
  | case6 done rest c after escape s last more ih =>
      cases read
      exact List.subset_of_cons_subset (ih more)
  | case9 done letter rest simple c escape s last more ih =>
      cases read
      exact List.subset_of_cons_subset (ih more)
  | case12 done c rest _ _ _ _ control s last more ih =>
      cases read
      exact List.subset_of_cons_subset (ih more)
  | _ => cases read

/-- A text in which an escape names a half, without the other half after it, cannot be encoded. -/
theorem encodes_of_half {after : List Char} {n : Nat} (number : numbered? tail = some (n, after))
    (half : Text.isHalf n = true) (alone : Text.isHighHalf n = true → lowHalf? after = none)
    {last} (read : textAfter halves opening done ('\\' :: 'u' :: tail) = .ok (s, last)) :
    halves.encodes s = false := by
  obtain ⟨shorter, escape⟩ := numberedEscape_alone halves number alone
  rw [unitChar, if_pos half] at escape
  rw [textAfter] at read
  simp only [escape] at read
  cases more : textAfter halves opening (halves.char n :: done) after with
  | error e =>
      rw [more] at read
      cases read
  | ok read' =>
      obtain ⟨text, rest⟩ := read'
      rw [more] at read
      cases read
      exact halves.encodes_of_mem half (subset_of_textAfter more (List.mem_cons_self ..))

end textAfter

/-! ## Numbers -/

/-- Whether no number goes on with what a text starts with. -/
def Ends (cs : List Char) : Prop :=
  ∀ c ∈ cs.head?, isDigit c = false ∧ c ≠ '.' ∧ c ≠ 'e' ∧ c ≠ 'E'

theorem isDigit_of_mem_toDigits {n : Nat} {c : Char} (hc : c ∈ Nat.toDigits 10 n) :
    isDigit c = true :=
  Nat.isDigit_of_mem_toDigits (by decide) (by decide) hc

theorem spanDigits_append {ds rest : List Char} (digits : ∀ c ∈ ds, isDigit c = true)
    (ends : Ends rest) : spanDigits (ds ++ rest) = (ds, rest) := by
  have stops : rest.takeWhile isDigit = [] ∧ rest.dropWhile isDigit = rest := by
    cases rest with
    | nil => exact ⟨rfl, rfl⟩
    | cons c cs => simp [(ends c rfl).1]
  rw [spanDigits, List.takeWhile_append_of_pos digits, List.dropWhile_append_of_pos digits,
    stops.1, stops.2, List.append_nil]

/-- Only zero is written with a zero in front. -/
theorem exists_toDigits_eq_cons {n : Nat} (pos : 0 < n) :
    ∃ d ds, Nat.toDigits 10 n = d :: ds ∧ d ≠ '0' := by
  induction n using Nat.strongRecOn with
  | ind n ih =>
      by_cases small : n < 10
      · refine ⟨_, _, Nat.toDigits_of_lt_base small, ?_⟩
        interval_cases n <;> decide
      · obtain ⟨d, ds, digits, nonzero⟩ := ih (n / 10) (by omega) (by omega)
        refine ⟨d, ds ++ [(n % 10).digitChar], ?_, nonzero⟩
        rw [Nat.toDigits_of_base_le (by decide) (by omega), digits, List.cons_append]

theorem wholePart_toDigits (n : Nat) {rest : List Char} (ends : Ends rest) :
    wholePart (Nat.toDigits 10 n ++ rest) = some (Nat.toDigits 10 n, rest) := by
  rcases Nat.eq_zero_or_pos n with rfl | pos
  · rw [Nat.toDigits_zero]
    rfl
  · obtain ⟨d, ds, digits, nonzero⟩ := exists_toDigits_eq_cons pos
    have isDigits : ∀ c ∈ d :: ds, isDigit c = true :=
      fun c hc => isDigit_of_mem_toDigits (digits ▸ hc)
    rw [digits, List.cons_append, wholePart]
    · rw [if_pos (isDigits d List.mem_cons_self), ← List.cons_append,
        spanDigits_append isDigits ends]
    · exact fun zero => absurd zero nonzero

/-- Whether a number has no more digits than are read. -/
def Fits (n : Nat) : Prop := (Nat.toDigits 10 n).length ≤ maxDigits

instance (n : Nat) : Decidable (Fits n) := Nat.decLe _ _

theorem number_toDigits (negative : Bool) {n : Nat} (limit : Fits n)
    {rest : List Char} (ends : Ends rest) :
    number negative (Nat.toDigits 10 n ++ rest) =
      some (.ok (.int (if negative then -n else n)), rest) := by
  have fraction : fractionPart rest = ([], rest) := by
    cases rest with
    | nil => rfl
    | cons c cs =>
        rw [fractionPart]
        rintro _ ⟨⟩
        exact (ends _ rfl).2.1 rfl
  have exponent : exponentPart rest = none := by
    cases rest with
    | nil => rfl
    | cons c cs => rw [exponentPart, if_neg (not_or.2 (ends c rfl).2.2)]
  have length : ¬(Nat.toDigits 10 n).length > maxDigits := Nat.not_lt.2 limit
  have read : digitsValue (Nat.toDigits 10 n) = n := Nat.ofDigitChars_ten_toDigits
  rw [number, wholePart_toDigits n ends]
  simp only [fraction, exponent, List.isEmpty_nil, Option.isNone_none, Bool.and_self, if_true,
    if_neg length, read]

/-! ## Scalars -/

theorem scalar_word {cs rest : List Char} {v : Value} (shorter : rest.length < cs.length)
    (read : word? cs words = some (v, ⟨rest, shorter⟩)) : Reads (scalar cs) v rest := by
  refine ⟨shorter, ?_⟩
  unfold scalar
  rw [read]

theorem scalar_null (rest : List Char) : Reads (scalar ("null".toList ++ rest)) .null rest :=
  scalar_word (by simp +arith) rfl

theorem scalar_bool (b : Bool) (rest : List Char) :
    Reads (scalar ((if b then "true" else "false").toList ++ rest)) (.bool b) rest := by
  cases b
  · exact scalar_word (by simp +arith) rfl
  · exact scalar_word (by simp +arith) rfl

theorem word?_eq_none {cs : List Char} {ws : List Word}
    (none : ∀ w ∈ ws, afterWord? w.spelling cs = none) : word? cs ws = .none := by
  induction ws with
  | nil => rfl
  | cons w ws ih =>
      unfold word?
      split
      next found =>
        rw [none w List.mem_cons_self] at found
        cases found
      next => exact ih fun w hw => none w (List.mem_cons_of_mem _ hw)

/-- No word starts with a digit, or with one after a minus. -/
theorem word?_digit {d : Char} (digit : isDigit d = true) (cs : List Char) :
    word? (d :: cs) words = none ∧ word? ('-' :: d :: cs) words = none := by
  have ne {c : Char} (h : isDigit c = false) : c ≠ d := by
    rintro rfl
    rw [h] at digit
    cases digit
  refine ⟨word?_eq_none ?_, word?_eq_none ?_⟩
  · simp [words, afterWord?, ne (c := 'n') rfl, ne (c := 't') rfl, ne (c := 'f') rfl,
      ne (c := 'N') rfl, ne (c := 'I') rfl, ne (c := '-') rfl]
  · simp [words, afterWord?, ne (c := 'I') rfl]

theorem scalar_number {d : Char} (digit : isDigit d = true) {ds rest : List Char} {v : Value}
    (read : number false (d :: ds) = some (.ok v, rest)) : Reads (scalar (d :: ds)) v rest := by
  refine ⟨number_length read, ?_⟩
  rw [scalar, (word?_digit digit ds).1]
  · dsimp only
    split
    next found => cases found.symm.trans read; rfl
    next found => cases found.symm.trans read
    next found => cases found.symm.trans read
  · rintro _ ⟨⟩
    cases digit

theorem scalar_negative {d : Char} (digit : isDigit d = true) {ds rest : List Char} {v : Value}
    (read : number true (d :: ds) = some (.ok v, rest)) :
    Reads (scalar ('-' :: d :: ds)) v rest := by
  refine ⟨Nat.lt_succ_of_lt (number_length read), ?_⟩
  rw [scalar, (word?_digit digit ds).2]
  dsimp only
  split
  next found => cases found.symm.trans read; rfl
  next found => cases found.symm.trans read
  next found => cases found.symm.trans read

theorem toList_toString (n : Int) : (toString n).toList =
    if n < 0 then '-' :: Nat.toDigits 10 n.natAbs else Nat.toDigits 10 n.natAbs := by
  cases n with
  | ofNat m => exact Nat.toList_repr
  | negSucc m =>
      rw [Int.toString_eq_repr, Int.repr, String.toList_append, Nat.toList_repr,
        if_pos (Int.negSucc_lt_zero m)]
      rfl

/-- An integer is read from its digits. -/
theorem scalar_int {n : Int} (limit : Fits n.natAbs) {rest : List Char}
    (ends : Ends rest) : Reads (scalar ((toString n).toList ++ rest)) (.int n) rest := by
  obtain ⟨d, ds, digits⟩ :=
    List.exists_cons_of_ne_nil (Nat.toDigits_ne_nil (b := 10) (n := n.natAbs))
  have digit : isDigit d = true := isDigit_of_mem_toDigits (digits ▸ List.mem_cons_self)
  have read (negative : Bool) := number_toDigits negative limit ends
  rw [digits] at read
  rw [toList_toString, digits]
  by_cases negative : n < 0
  · have value : (if true then -(n.natAbs : Int) else n.natAbs) = n := by
      rw [if_pos rfl]
      omega
    rw [if_pos negative]
    exact value ▸ scalar_negative digit (read true)
  · have value : (if false then -(n.natAbs : Int) else n.natAbs) = n := by
      rw [if_neg Bool.false_ne_true]
      omega
    rw [if_neg negative]
    exact value ▸ scalar_number digit (read false)

end Typewright.Json
