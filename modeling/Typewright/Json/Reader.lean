import Typewright.Json.Problem
import Typewright.Text.Halves

/-!
# Reading JSON texts

`Json.parse` reads one value from a text, with blanks (space, tab, line feed, carriage return)
around every part of it. Beside the standard's values it takes `NaN`, `Infinity` and `-Infinity`.
A number with a point or an exponent is a double and any other an integer. Of entries with one name
the last value counts, in the place of the first. An integer may have at most `maxDigits` digits.

Two things depend on where a text is read, and a `Reader` says what they are: how many lists and
objects may lie inside each other, and which characters stand for halves of pairs. An escape that
names a half is no mistake, with or without the other half after it.

Every step returns the rest of the text with the proof that it is shorter, so reading ends by the
length of the text.
-/

namespace Typewright.Json

/-- What reading depends on beside the text. -/
structure Reader where
  /-- The characters that stand for halves of pairs. -/
  halves : Text.Halves
  /-- The most lists and objects that may lie inside each other. -/
  depth : Nat

/-- A reader with room for what documents are like. -/
def Reader.usual : Reader := ⟨.far, 990⟩

/-- A rest of a text that is shorter than the text. -/
abbrev Shorter (cs : List Char) := { rest : List Char // rest.length < cs.length }

/-- A rest of a text that may be all of it. -/
abbrev Within (cs : List Char) := { rest : List Char // rest.length ≤ cs.length }

/-- Whether a character may stand between the parts of a text. -/
def isSpace (c : Char) : Bool := c == ' ' || c == '\t' || c == '\n' || c == '\r'

/-- The text after its blanks. -/
def skipSpace (cs : List Char) : Within cs :=
  ⟨cs.dropWhile isSpace, (List.dropWhile_suffix isSpace).length_le⟩

/-- The problem at the start of a rest of the text. -/
def problemAt {α : Type} (p : Problem) (rest : List Char) : Except Failure α :=
  .error (.malformed p rest.length)

/-! ## Texts -/

/-- The value of a hexadecimal digit. -/
def hexDigit? (c : Char) : Option Nat :=
  if '0' ≤ c ∧ c ≤ '9' then some (c.toNat - '0'.toNat)
  else if 'a' ≤ c ∧ c ≤ 'f' then some (c.toNat - 'a'.toNat + 10)
  else if 'A' ≤ c ∧ c ≤ 'F' then some (c.toNat - 'A'.toNat + 10)
  else none

/-- The number that four hexadecimal digits give. -/
def hex4? (a b c d : Char) : Option Nat := do
  let w ← hexDigit? a
  let x ← hexDigit? b
  let y ← hexDigit? c
  let z ← hexDigit? d
  return ((w * 16 + x) * 16 + y) * 16 + z

/-- The character of a number, or the one that stands for half of a pair. -/
def unitChar (h : Text.Halves) (n : Nat) : Char :=
  if Text.isHalf n then h.char n else Char.ofNat n

/-- The four digits of a numbered escape, with something after them. -/
def numbered? : List Char → Option (Nat × List Char)
  | a :: b :: c :: d :: e :: rest => (hex4? a b c d).map fun n => (n, e :: rest)
  | _ => none

theorem numbered?_length {cs rest : List Char} {n : Nat} (h : numbered? cs = some (n, rest)) :
    rest.length < cs.length := by
  unfold numbered? at h
  split at h
  · obtain ⟨m, _, h⟩ := Option.map_eq_some_iff.1 h
    simp only [Prod.mk.injEq] at h
    simp only [← h.2, List.length_cons]
    omega
  · simp at h

/-- The second half of a pair, if the rest of the text goes on with one. -/
def lowHalf? : List Char → Option (Nat × List Char)
  | '\\' :: 'u' :: rest =>
      match numbered? rest with
      | some (n, after) => if Text.isLowHalf n then some (n, after) else none
      | none => none
  | _ => none

theorem lowHalf?_length {cs rest : List Char} {n : Nat} (h : lowHalf? cs = some (n, rest)) :
    rest.length < cs.length := by
  unfold lowHalf? at h
  split at h
  · split at h
    · rename_i heq
      have := numbered?_length heq
      split at h
      · simp only [Option.some.injEq, Prod.mk.injEq] at h
        simp only [← h.2, List.length_cons]
        omega
      · simp at h
    · simp at h
  · simp at h

/-- The character of a numbered escape, joined with a second half that follows. -/
def numberedEscape (h : Text.Halves) (cs : List Char) : Option (Char × Shorter cs) :=
  match hn : numbered? cs with
  | none => none
  | some (n, rest) =>
    match hl : lowHalf? rest with
    | some (low, after) =>
      if Text.isHighHalf n then
        some (Char.ofNat (0x10000 + (n - 0xD800) * 0x400 + (low - 0xDC00)),
          ⟨after, Nat.lt_trans (lowHalf?_length hl) (numbered?_length hn)⟩)
      else some (unitChar h n, ⟨rest, numbered?_length hn⟩)
    | none => some (unitChar h n, ⟨rest, numbered?_length hn⟩)

/-- The character of an escape of one letter. -/
def simpleEscape? (c : Char) : Option Char :=
  match c with
  | '"' => some '"'
  | '\\' => some '\\'
  | '/' => some '/'
  | 'b' => some '\x08'
  | 'f' => some '\x0c'
  | 'n' => some '\n'
  | 'r' => some '\r'
  | 't' => some '\t'
  | _ => none

/-- The characters up to the closing quote, after those already read, last first. The text is also
given from its opening quote on, which is where it is unterminated. -/
def textAfter (h : Text.Halves) (opening done cs : List Char) :
    Except Failure (String × Shorter cs) :=
  match cs with
  | [] => problemAt .unterminated opening
  | '"' :: rest => .ok (String.ofList done.reverse, ⟨rest, Nat.lt_succ_self _⟩)
  | ['\\'] => problemAt .unterminated opening
  | '\\' :: 'u' :: rest =>
    match numberedEscape h rest with
    | none => problemAt .numberedEscape ('u' :: rest)
    | some (c, after) =>
      match textAfter h opening (c :: done) after.1 with
      | .error e => .error e
      | .ok (s, last) =>
        .ok (s, ⟨last.1, by have := after.2; have := last.2; simp only [List.length_cons]; omega⟩)
  | '\\' :: c :: rest =>
    match simpleEscape? c with
    | none => problemAt .escape ('\\' :: c :: rest)
    | some e =>
      match textAfter h opening (e :: done) rest with
      | .error e => .error e
      | .ok (s, last) =>
        .ok (s, ⟨last.1, by have := last.2; simp only [List.length_cons]; omega⟩)
  | c :: rest =>
    if c < ' ' then problemAt .control (c :: rest)
    else
      match textAfter h opening (c :: done) rest with
      | .error e => .error e
      | .ok (s, last) =>
        .ok (s, ⟨last.1, by have := last.2; simp only [List.length_cons]; omega⟩)
termination_by cs.length
decreasing_by
  · have := after.2; simp only [List.length_cons]; omega
  · simp only [List.length_cons]; omega
  · simp only [List.length_cons]; omega

/-! ## Numbers -/

/-- Whether a character is a decimal digit. -/
def isDigit (c : Char) : Bool := '0' ≤ c && c ≤ '9'

/-- The number that digits give. -/
def digitsValue (ds : List Char) : Nat := ds.foldl (fun n c => 10 * n + (c.toNat - '0'.toNat)) 0

/-- Digits and what follows them. -/
def spanDigits (cs : List Char) : List Char × List Char :=
  (cs.takeWhile isDigit, cs.dropWhile isDigit)

/-- The digits of the whole part: a zero alone, or digits that start with another one. -/
def wholePart : List Char → Option (List Char × List Char)
  | '0' :: rest => some (['0'], rest)
  | c :: rest => if isDigit c then some (spanDigits (c :: rest)) else none
  | [] => none

/-- The digits after a point, if a point with a digit after it comes next. -/
def fractionPart : List Char → List Char × List Char
  | '.' :: rest =>
      match spanDigits rest with
      | ([], _) => ([], '.' :: rest)
      | (ds, after) => (ds, after)
  | cs => ([], cs)

/-- A sign and what follows it. -/
def signPart : List Char → Bool × List Char
  | '-' :: rest => (true, rest)
  | '+' :: rest => (false, rest)
  | cs => (false, cs)

/-- The exponent, if the letter for it with a digit after it comes next. -/
def exponentPart : List Char → Option (Int × List Char)
  | c :: rest =>
      if c = 'e' ∨ c = 'E' then
        let (negative, after) := signPart rest
        match spanDigits after with
        | ([], _) => none
        | (ds, last) =>
          let n : Int := digitsValue ds
          some (if negative then -n else n, last)
      else none
  | [] => none

/-- The number at the start of a text whose sign has been read, and what follows it. -/
def number (negative : Bool) (cs : List Char) : Option (Except Failure Value × List Char) :=
  match wholePart cs with
  | none => none
  | some (whole, afterWhole) =>
    let (fraction, afterFraction) := fractionPart afterWhole
    let exponent := exponentPart afterFraction
    if fraction.isEmpty && exponent.isNone then
      if whole.length > maxDigits then some (.error (.overLimit (.digits whole.length)), afterWhole)
      else
        let n : Int := digitsValue whole
        some (.ok (.int (if negative then -n else n)), afterWhole)
    else
      let e := (exponent.map (·.1)).getD 0
      let rest := (exponent.map (·.2)).getD afterFraction
      some (.ok (.double (Double.ofDecimal negative (digitsValue (whole ++ fraction))
        (e - fraction.length))), rest)

/-! ## Lengths of what follows -/

theorem spanDigits_length (cs : List Char) : (spanDigits cs).2.length ≤ cs.length :=
  (List.dropWhile_suffix isDigit).length_le

theorem wholePart_length {cs ds rest : List Char} (h : wholePart cs = some (ds, rest)) :
    rest.length < cs.length := by
  unfold wholePart at h
  split at h
  · simp only [Option.some.injEq, Prod.mk.injEq] at h
    simp [← h.2]
  · rename_i c cs _
    split at h
    · rename_i hd
      simp only [Option.some.injEq] at h
      have : (spanDigits (c :: cs)).2 = (spanDigits cs).2 := by simp [spanDigits, hd]
      rw [h] at this
      simp only at this
      have hs := spanDigits_length cs
      simp only [List.length_cons, this]
      omega
    · simp at h
  · simp at h

theorem fractionPart_length (cs : List Char) : (fractionPart cs).2.length ≤ cs.length := by
  unfold fractionPart
  split
  · rename_i rest
    split
    · simp
    · rename_i ds after _ heq
      have := spanDigits_length rest
      rw [heq] at this
      simp only [List.length_cons]
      simp only at this
      omega
  · simp

theorem signPart_length (cs : List Char) : (signPart cs).2.length ≤ cs.length := by
  unfold signPart
  split <;> simp

theorem exponentPart_length {cs rest : List Char} {e : Int}
    (h : exponentPart cs = some (e, rest)) : rest.length ≤ cs.length := by
  unfold exponentPart at h
  split at h
  · rename_i c cs
    split at h
    · simp only at h
      split at h
      · simp at h
      · rename_i ds last _ heq
        simp only [Option.some.injEq, Prod.mk.injEq] at h
        have h1 := spanDigits_length (signPart cs).2
        rw [heq] at h1
        have h2 := signPart_length cs
        simp only [List.length_cons, ← h.2]
        simp only at h1
        omega
    · simp at h
  · simp at h

theorem number_length {negative : Bool} {cs rest : List Char} {r : Except Failure Value}
    (h : number negative cs = some (r, rest)) : rest.length < cs.length := by
  unfold number at h
  split at h
  · simp at h
  · rename_i whole afterWhole heq
    have h1 := wholePart_length heq
    have h2 := fractionPart_length afterWhole
    simp only at h
    split at h
    · split at h
      · simp only [Option.some.injEq, Prod.mk.injEq] at h
        rw [← h.2]; exact h1
      · simp only [Option.some.injEq, Prod.mk.injEq] at h
        rw [← h.2]; exact h1
    · simp only [Option.some.injEq, Prod.mk.injEq] at h
      rw [← h.2]
      cases he : exponentPart (fractionPart afterWhole).2 with
      | none => simp only [Option.map_none, Option.getD_none]; omega
      | some p =>
        have h3 : p.2.length ≤ _ := exponentPart_length he
        simp only [Option.map_some, Option.getD_some]
        omega

/-! ## Words and numbers -/

/-- The rest of a text after a word. -/
def afterWord? : List Char → List Char → Option (List Char)
  | [], cs => some cs
  | _ :: _, [] => none
  | w :: ws, c :: cs => if w = c then afterWord? ws cs else none

theorem afterWord?_length {word cs rest : List Char} (h : afterWord? word cs = some rest) :
    rest.length + word.length = cs.length := by
  induction word generalizing cs with
  | nil => simp only [afterWord?, Option.some.injEq] at h; simp [h]
  | cons w ws ih =>
    cases cs with
    | nil => simp [afterWord?] at h
    | cons c cs =>
      simp only [afterWord?] at h
      split at h
      · have := ih h
        simp only [List.length_cons]
        omega
      · simp at h

/-- A word that stands for a value. -/
structure Word where
  spelling : List Char
  value : Value
  /-- A spelling has characters. -/
  spelling_ne_nil : spelling ≠ [] := by decide

/-- The words that stand for values. -/
def words : List Word :=
  [⟨['n', 'u', 'l', 'l'], .null, by decide⟩,
   ⟨['t', 'r', 'u', 'e'], .bool true, by decide⟩,
   ⟨['f', 'a', 'l', 's', 'e'], .bool false, by decide⟩,
   ⟨['N', 'a', 'N'], .double Double.nan, by decide⟩,
   ⟨['I', 'n', 'f', 'i', 'n', 'i', 't', 'y'], .double (Double.infinity false), by decide⟩,
   ⟨['-', 'I', 'n', 'f', 'i', 'n', 'i', 't', 'y'], .double (Double.infinity true), by decide⟩]

/-- The value of the first word a text starts with. -/
def word? (cs : List Char) : List Word → Option (Value × Shorter cs)
  | [] => none
  | w :: ws =>
      match h : afterWord? w.spelling cs with
      | some rest =>
        some (w.value, ⟨rest, by
          have := afterWord?_length h
          have := List.length_pos_iff.2 w.spelling_ne_nil
          omega⟩)
      | none => word? cs ws

/-- A value that is a word or a number. -/
def scalar (cs : List Char) : Except Failure (Value × Shorter cs) :=
  match word? cs words with
  | some (v, rest) => .ok (v, rest)
  | none =>
    match cs with
    | '-' :: tail =>
      match h : number true tail with
      | some (.ok v, rest) => .ok (v, ⟨rest, by
          have := number_length h; simp only [List.length_cons]; omega⟩)
      | some (.error e, _) => .error e
      | none => problemAt .value ('-' :: tail)
    | tail =>
      match h : number false tail with
      | some (.ok v, rest) => .ok (v, ⟨rest, number_length h⟩)
      | some (.error e, _) => .error e
      | none => problemAt .value tail

/-! ## Values -/

mutual

/-- The value a text starts with, in which so many lists and objects may lie inside each other. -/
def value (h : Text.Halves) (room : Nat) (cs : List Char) : Except Failure (Value × Shorter cs) :=
  match cs with
  | '"' :: rest =>
    match textAfter h ('"' :: rest) [] rest with
    | .error e => .error e
    | .ok (s, after) =>
      .ok (.str s, ⟨after.1, by have := after.2; simp only [List.length_cons]; omega⟩)
  | '[' :: rest =>
    match room with
    | 0 => .error (.overLimit (.depth .array))
    | room + 1 =>
      match hs : (skipSpace rest).1 with
      | ']' :: after =>
        .ok (.list [], ⟨after, by
          have := (skipSpace rest).2; rw [hs] at this
          simp only [List.length_cons] at this ⊢; omega⟩)
      | _ =>
        match items h room [] (skipSpace rest).1 with
        | .error e => .error e
        | .ok (vs, after) =>
          .ok (.list vs, ⟨after.1, by
            have := (skipSpace rest).2; have := after.2
            simp only [List.length_cons]; omega⟩)
  | '\x7b' :: rest =>
    match room with
    | 0 => .error (.overLimit (.depth .object))
    | room + 1 =>
      match hs : (skipSpace rest).1 with
      | '\x7d' :: after =>
        .ok (.object [], ⟨after, by
          have := (skipSpace rest).2; rw [hs] at this
          simp only [List.length_cons] at this ⊢; omega⟩)
      | _ =>
        match entries h room [] (skipSpace rest).1 with
        | .error e => .error e
        | .ok (es, after) =>
          .ok (.object es, ⟨after.1, by
            have := (skipSpace rest).2; have := after.2
            simp only [List.length_cons]; omega⟩)
  | cs => scalar cs
termination_by 2 * cs.length
decreasing_by
  all_goals
    have := (skipSpace rest).2
    simp only [List.length_cons]; omega

/-- The items of a list up to its bracket, after those already read, last first. -/
def items (h : Text.Halves) (room : Nat) (done : List Value) (cs : List Char) :
    Except Failure (List Value × Shorter cs) :=
  match value h room cs with
  | .error e => .error e
  | .ok (v, afterValue) =>
    match hs : (skipSpace afterValue.1).1 with
    | ']' :: after =>
      .ok ((v :: done).reverse, ⟨after, by
        have h1 := (skipSpace afterValue.1).2; rw [hs] at h1
        have := afterValue.2
        simp only [List.length_cons] at h1; omega⟩)
    | ',' :: after =>
      match items h room (v :: done) (skipSpace after).1 with
      | .error e => .error e
      | .ok (vs, last) =>
        .ok (vs, ⟨last.1, by
          have h1 := (skipSpace afterValue.1).2; rw [hs] at h1
          have := afterValue.2
          have := (skipSpace after).2
          have := last.2
          simp only [List.length_cons] at h1; omega⟩)
    | other => problemAt .comma other
termination_by 2 * cs.length + 1
decreasing_by
  · omega
  · have h1 := (skipSpace afterValue.1).2
    rw [hs] at h1
    have := afterValue.2
    have := (skipSpace after).2
    simp only [List.length_cons] at h1; omega

/-- The entries of an object up to its brace, after those already read. -/
def entries (h : Text.Halves) (room : Nat) (done : Entries) (cs : List Char) :
    Except Failure (Entries × Shorter cs) :=
  match cs with
  | '"' :: rest =>
    match textAfter h ('"' :: rest) [] rest with
    | .error e => .error e
    | .ok (name, afterName) =>
      match hc : (skipSpace afterName.1).1 with
      | ':' :: afterColon =>
        match value h room (skipSpace afterColon).1 with
        | .error e => .error e
        | .ok (v, afterValue) =>
          match hs : (skipSpace afterValue.1).1 with
          | '\x7d' :: after =>
            .ok (done.put name v, ⟨after, by
              have h1 := (skipSpace afterName.1).2; rw [hc] at h1
              have := afterName.2
              have := (skipSpace afterColon).2
              have := afterValue.2
              have h5 := (skipSpace afterValue.1).2; rw [hs] at h5
              simp only [List.length_cons] at *; omega⟩)
          | ',' :: after =>
            match entries h room (done.put name v) (skipSpace after).1 with
            | .error e => .error e
            | .ok (es, last) =>
              .ok (es, ⟨last.1, by
                have h1 := (skipSpace afterName.1).2; rw [hc] at h1
                have := afterName.2
                have := (skipSpace afterColon).2
                have := afterValue.2
                have h5 := (skipSpace afterValue.1).2; rw [hs] at h5
                have := (skipSpace after).2
                have := last.2
                simp only [List.length_cons] at *; omega⟩)
          | other => problemAt .comma other
      | other => problemAt .colon other
  | cs => problemAt .name cs
termination_by 2 * cs.length + 1
decreasing_by
  · have h1 := (skipSpace afterName.1).2
    rw [hc] at h1
    have := afterName.2
    have := (skipSpace afterColon).2
    simp only [List.length_cons] at *; omega
  · have h1 := (skipSpace afterName.1).2
    rw [hc] at h1
    have := afterName.2
    have := (skipSpace afterColon).2
    have := afterValue.2
    have h5 := (skipSpace afterValue.1).2
    rw [hs] at h5
    have := (skipSpace after).2
    simp only [List.length_cons] at *; omega

end

/-- The value a whole text is. -/
def parseChars (r : Reader) (cs : List Char) : Except Failure Value :=
  match cs with
  | '\ufeff' :: rest => problemAt .byteOrderMark ('\ufeff' :: rest)
  | cs =>
    match value r.halves r.depth (skipSpace cs).1 with
    | .error e => .error e
    | .ok (v, after) =>
      match (skipSpace after.1).1 with
      | [] => .ok v
      | rest => problemAt .extra rest

/-- The value a text is. -/
def parse (r : Reader) (s : String) : Except Failure Value := parseChars r s.toList

end Typewright.Json
