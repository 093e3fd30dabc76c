/-!
# UTF-8

A sequence of octets is read as a sequence of units: a unit is a character, or the longest run of
octets that starts like a character and goes on like none. A text is well-formed when all units are
characters (`decode?`).
-/

namespace Typewright.Text

/-- The octets of a text. -/
def encode (s : String) : List UInt8 := s.toUTF8.toList

/-- The octets of a character after the first: the bounds of the next one, how many there are to
come, and the number read so far. -/
def continued (low high : Nat) (count value : Nat) : List UInt8 → Option Nat × List UInt8
  | [] => (if count = 0 then some value else none, [])
  | b :: rest =>
      match count with
      | 0 => (some value, b :: rest)
      | count + 1 =>
        if low ≤ b.toNat ∧ b.toNat ≤ high then
          continued 0x80 0xBF count (value * 0x40 + b.toNat % 0x40) rest
        else (none, b :: rest)

theorem continued_length (low high count value : Nat) (bs : List UInt8) :
    (continued low high count value bs).2.length ≤ bs.length := by
  induction bs generalizing low high count value with
  | nil => simp [continued]
  | cons b rest ih =>
    unfold continued
    split
    · simp
    · split
      · exact Nat.le_succ_of_le (ih _ _ _ _)
      · simp

/-- The first unit of octets that start with a given one. -/
def unit (b : UInt8) (rest : List UInt8) : Option Nat × List UInt8 :=
  let n := b.toNat
  if n < 0x80 then (some n, rest)
  else if 0xC2 ≤ n ∧ n ≤ 0xDF then continued 0x80 0xBF 1 (n % 0x20) rest
  else if n = 0xE0 then continued 0xA0 0xBF 2 0 rest
  else if n = 0xED then continued 0x80 0x9F 2 0xD rest
  else if 0xE1 ≤ n ∧ n ≤ 0xEF then continued 0x80 0xBF 2 (n % 0x10) rest
  else if n = 0xF0 then continued 0x90 0xBF 3 0 rest
  else if 0xF1 ≤ n ∧ n ≤ 0xF3 then continued 0x80 0xBF 3 (n % 0x08) rest
  else if n = 0xF4 then continued 0x80 0x8F 3 4 rest
  else (none, rest)

theorem unit_length (b : UInt8) (rest : List UInt8) : (unit b rest).2.length ≤ rest.length := by
  unfold unit
  simp only
  repeat' split
  all_goals first
    | exact continued_length _ _ _ _ _
    | exact Nat.le_refl _

/-- The units of a sequence of octets. -/
def units (bs : List UInt8) : List (Option Char) :=
  match bs with
  | [] => []
  | b :: rest =>
    let u := unit b rest
    u.1.map Char.ofNat :: units u.2
termination_by bs.length
decreasing_by exact Nat.lt_succ_of_le (unit_length b rest)

/-- The text of octets that are well-formed. -/
def decode? (bs : List UInt8) : Option (List Char) := (units bs).mapM id

/-- A text in which every way to end a line is a line feed. -/
def unifyLineEnds : List Char → List Char
  | [] => []
  | '\r' :: '\n' :: rest => '\n' :: unifyLineEnds rest
  | '\r' :: rest => '\n' :: unifyLineEnds rest
  | c :: rest => c :: unifyLineEnds rest

end Typewright.Text
