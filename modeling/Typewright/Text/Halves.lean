import Typewright.Text.Quoted

/-!
# Halves of pairs

In units of two octets a character beyond them is a pair of *halves*, which are numbers of no
characters. A text may hold a half without its other half: an escape can name one, and in a path one
stands for an octet that belongs to no character. Such a text cannot be encoded.

No `Char` is a half. So a half in a text is a *stand-in*, a character that `Halves` chooses for it.
A choice suits all texts that have no other use for the stand-ins, and what holds of texts holds for
every choice.
-/

namespace Typewright.Text

/-- Whether a number is the first half of a pair that stands for one character. -/
def isHighHalf (n : Nat) : Bool := 0xD800 ≤ n && n < 0xDC00

/-- Whether a number is the second half of a pair that stands for one character. -/
def isLowHalf (n : Nat) : Bool := 0xDC00 ≤ n && n < 0xE000

/-- Whether a number is half of a pair. -/
def isHalf (n : Nat) : Bool := isHighHalf n || isLowHalf n

/-- Whether a half stands for an octet in a path. -/
def isOctetHalf (n : Nat) : Bool := 0xDC80 ≤ n && n < 0xDD00

/-- The characters that stand for halves. -/
structure Halves where
  /-- The stand-in of a half. -/
  char : Nat → Char
  /-- The half that a character stands for. -/
  half? : Char → Option Nat
  /-- The stand-ins of halves stand for these halves, and no other characters do. -/
  half?_eq_some : ∀ {c : Char} {n : Nat}, half? c = some n ↔ isHalf n = true ∧ char n = c

namespace Halves

variable (h : Halves)

/-- Whether a text can be encoded: it has no halves. -/
def encodes (s : String) : Bool := s.toList.all fun c => (h.half? c).isNone

/-- Whether a text can be part of a path: its halves stand for octets. -/
def names (s : String) : Bool := s.toList.all fun c => (h.half? c).all isOctetHalf

/-- A text as it is shown: its halves are escaped by their numbers. -/
def shown (s : String) : String :=
  String.ofList (s.toList.flatMap fun c =>
    match h.half? c with
    | some n => '\\' :: 'u' :: hex 4 n
    | none => [c])

/-! ## Texts with halves -/

theorem half?_char {n : Nat} (half : isHalf n = true) : h.half? (h.char n) = some n :=
  h.half?_eq_some.2 ⟨half, rfl⟩

/-- A text with a half cannot be encoded. -/
theorem encodes_of_mem {s : String} {n : Nat} (half : isHalf n = true) (mem : h.char n ∈ s.toList) :
    h.encodes s = false := by
  rw [encodes, List.all_eq_false]
  refine ⟨_, mem, ?_⟩
  rw [h.half?_char half]
  exact Bool.false_ne_true

/-! ## Stand-ins in order -/

theorem isHalf_iff {n : Nat} : isHalf n = true ↔ 0xD800 ≤ n ∧ n < 0xE000 := by
  simp only [isHalf, isHighHalf, isLowHalf, Bool.or_eq_true, Bool.and_eq_true, decide_eq_true_iff]
  omega

/-- The characters from a number on stand for the halves in order. -/
def startingAt (first : Nat) (bounds : 0xE000 ≤ first ∧ first + 0x800 ≤ 0x110000) : Halves where
  char n := Char.ofNat (first + (n - 0xD800))
  half? c :=
    if first ≤ c.toNat ∧ c.toNat < first + 0x800 then some (0xD800 + (c.toNat - first)) else none
  half?_eq_some {c n} := by
    rw [isHalf_iff, Option.ite_none_right_eq_some, Option.some_inj]
    constructor
    · rintro ⟨inside, rfl⟩
      refine ⟨by omega, ?_⟩
      have same : first + (0xD800 + (c.toNat - first) - 0xD800) = c.toNat := by omega
      rw [same, Char.ofNat_toNat]
    · rintro ⟨half, rfl⟩
      have valid : (first + (n - 0xD800)).isValidChar := by
        rw [Nat.isValidChar]
        omega
      have number : (Char.ofNat (first + (n - 0xD800))).toNat = first + (n - 0xD800) := by
        rw [Char.ofNat, dif_pos valid]
        rfl
      rw [number]
      omega

/-- Stand-ins out of the way of all characters in use. -/
def far : Halves := startingAt 0xF0000 (by decide)

end Halves

end Typewright.Text
