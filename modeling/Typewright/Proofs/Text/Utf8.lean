import Mathlib.Data.List.Basic
import Mathlib.Tactic.SplitIfs
import Typewright.Text.Utf8

/-!
# Decoding what is encoded

The octets of a text are those of its characters in turn (`encode_eq`). Each character is read as
one unit whatever octets come after its own (`units_append`), so the octets of a text are
well-formed and decode to that text (`decode?_encode`), and no two texts have the same octets.
Conversely, a unit that is a character has the octets of that character (`exists_char_of_unit`), so
no other octets than those of a text are well-formed (`decode?_eq_none_iff`).
-/

namespace Typewright.Text

/-! ## The octets of a text -/

theorem toList_loop (bs : ByteArray) (i : Nat) (done : List UInt8) :
    ByteArray.toList.loop bs i done = done.reverse ++ bs.data.toList.drop i := by
  fun_induction ByteArray.toList.loop bs i done with
  | case1 i done h ih =>
      have inside : i < bs.data.toList.length := by simpa using h
      rw [ih, List.reverse_cons, List.append_assoc, List.drop_eq_getElem_cons inside,
        List.singleton_append, ByteArray.get!]
      simp [getElem!_pos, h]
  | case2 i done h =>
      rw [List.drop_eq_nil_of_le (by simpa using h), List.append_nil]

/-- The octets of a text are those of its characters. -/
theorem encode_eq (s : String) : encode s = s.toList.flatMap String.utf8EncodeChar := by
  rw [encode, String.toUTF8, ← String.utf8Encode_toList, ByteArray.toList, toList_loop,
    List.utf8Encode, List.toList_data_toByteArray]
  rfl

/-! ## The octets of a character -/

theorem toNat_ofNat {octet : Nat} (small : octet < 0x100) : (UInt8.ofNat octet).toNat = octet :=
  UInt8.toNat_ofNat_of_lt' small

theorem continued_zero (low high n : Nat) (rest : List UInt8) :
    continued low high 0 n rest = (some n, rest) := by
  cases rest <;> rfl

/-- An octet after the first, within its bounds, gives the next six bits. -/
theorem continued_ofNat {low high octet : Nat} (count n : Nat) (rest : List UInt8)
    (small : octet < 0x100) (bounds : low ≤ octet ∧ octet ≤ high) :
    continued low high (count + 1) n (UInt8.ofNat octet :: rest) =
      continued 0x80 0xBF count (n * 0x40 + octet % 0x40) rest := by
  rw [continued, toNat_ofNat small, if_pos bounds]

/-- A character is read from its own octets, whatever comes after them. -/
theorem exists_unit (c : Char) (rest : List UInt8) :
    ∃ b own, String.utf8EncodeChar c = b :: own ∧ unit b (own ++ rest) = (some c.toNat, rest) := by
  have valid : c.toNat < 0xD800 ∨ 0xDFFF < c.toNat ∧ c.toNat < 0x110000 := c.valid
  unfold String.utf8EncodeChar
  simp only [Char.toNat_val]
  split_ifs with one two three
  · refine ⟨_, _, rfl, ?_⟩
    rw [unit, toNat_ofNat (by omega), if_pos (by omega)]
    rfl
  · refine ⟨_, _, rfl, ?_⟩
    rw [unit, toNat_ofNat (by omega), if_neg (by omega), if_pos (by omega),
      List.cons_append, continued_ofNat _ _ _ (by omega) (by omega), continued_zero]
    congr 2
    omega
  -- The bounds of the second octet depend on the first one.
  · refine ⟨_, _, rfl, ?_⟩
    rw [unit, toNat_ofNat (by omega), List.cons_append, List.cons_append]
    split_ifs <;> try omega
    all_goals
      rw [continued_ofNat _ _ _ (by omega) (by omega), continued_ofNat _ _ _ (by omega) (by omega),
        continued_zero]
      congr 2
      omega
  · refine ⟨_, _, rfl, ?_⟩
    rw [unit, toNat_ofNat (by omega), List.cons_append, List.cons_append,
      List.cons_append]
    split_ifs <;> try omega
    all_goals
      rw [continued_ofNat _ _ _ (by omega) (by omega), continued_ofNat _ _ _ (by omega) (by omega),
        continued_ofNat _ _ _ (by omega) (by omega), continued_zero]
      congr 2
      omega

theorem units_append (c : Char) (rest : List UInt8) :
    units (String.utf8EncodeChar c ++ rest) = some c :: units rest := by
  obtain ⟨b, own, octets, read⟩ := exists_unit c rest
  rw [octets, List.cons_append, units, read]
  dsimp only
  rw [Option.map_some, Char.ofNat_toNat]

/-- The octets of a text decode to it. -/
theorem decode?_encode (s : String) : decode? (encode s) = some s.toList := by
  have all (cs : List Char) : units (cs.flatMap String.utf8EncodeChar) = cs.map some := by
    induction cs with
    | nil => rw [List.flatMap_nil, units, List.map_nil]
    | cons c cs ih => rw [List.flatMap_cons, units_append, ih, List.map_cons]
  rw [decode?, encode_eq, all, List.mapM_map]
  exact (List.mapM_pure (m := Option)).trans (congrArg some (List.map_id _))

theorem encode_inj {s s' : String} : encode s = encode s' ↔ s = s' := by
  refine ⟨fun same => ?_, congrArg encode⟩
  have decoded := congrArg decode? same
  rw [decode?_encode, decode?_encode, Option.some_inj] at decoded
  exact String.toList_inj.1 decoded

/-! ## The characters of octets -/

theorem eq_ofNat (b : UInt8) {n : Nat} (h : b.toNat = n) : b = UInt8.ofNat n := by
  rw [← h, UInt8.ofNat_toNat]

theorem exists_char {n : Nat} (valid : n < 0xD800 ∨ 0xDFFF < n ∧ n < 0x110000) :
    ∃ c : Char, c.toNat = n :=
  ⟨Char.ofNat n, by rw [Char.ofNat, dif_pos valid]; rfl⟩

/-- Whether an octet may stand after the first one of a character. -/
def Follows (b : UInt8) : Prop := 0x80 ≤ b.toNat ∧ b.toNat ≤ 0xBF

section Octets

variable {b b₁ b₂ b₃ : UInt8} {n : Nat}

theorem exists_char_one (first : b.toNat < 0x80) :
    ∃ c : Char, c.toNat = b.toNat ∧ String.utf8EncodeChar c = [b] := by
  obtain ⟨c, hc⟩ := exists_char (n := b.toNat) (by omega)
  refine ⟨c, hc, ?_⟩
  rw [String.utf8EncodeChar, Char.toNat_val, hc, if_pos (by omega), UInt8.ofNat_toNat]

theorem exists_char_two (first : 0xC2 ≤ b.toNat ∧ b.toNat ≤ 0xDF) (second : Follows b₁) :
    ∃ c : Char, c.toNat = b.toNat % 0x20 * 0x40 + b₁.toNat % 0x40 ∧
      String.utf8EncodeChar c = [b, b₁] := by
  rw [Follows] at second
  obtain ⟨c, hc⟩ := exists_char (n := b.toNat % 0x20 * 0x40 + b₁.toNat % 0x40) (by omega)
  refine ⟨c, hc, ?_⟩
  rw [String.utf8EncodeChar, Char.toNat_val, hc, if_neg (by omega), if_pos (by omega),
    ← eq_ofNat b (by omega), ← eq_ofNat b₁ (by omega)]

theorem exists_char_three (first : 0xE0 ≤ b.toNat ∧ b.toNat ≤ 0xEF) (second : Follows b₁)
    (third : Follows b₂)
    (number : (b.toNat % 0x10 * 0x40 + b₁.toNat % 0x40) * 0x40 + b₂.toNat % 0x40 = n)
    (range : 0x800 ≤ n ∧ (n < 0xD800 ∨ 0xDFFF < n)) :
    ∃ c : Char, c.toNat = n ∧ String.utf8EncodeChar c = [b, b₁, b₂] := by
  rw [Follows] at second third
  obtain ⟨c, hc⟩ := exists_char (n := n) (by omega)
  refine ⟨c, hc, ?_⟩
  rw [String.utf8EncodeChar, Char.toNat_val, hc, if_neg (by omega), if_neg (by omega),
    if_pos (by omega), ← eq_ofNat b (by omega), ← eq_ofNat b₁ (by omega),
    ← eq_ofNat b₂ (by omega)]

theorem exists_char_four (first : 0xF0 ≤ b.toNat ∧ b.toNat ≤ 0xF7) (second : Follows b₁)
    (third : Follows b₂) (fourth : Follows b₃)
    (number : ((b.toNat % 0x08 * 0x40 + b₁.toNat % 0x40) * 0x40 + b₂.toNat % 0x40) * 0x40 +
      b₃.toNat % 0x40 = n)
    (range : 0x10000 ≤ n ∧ n < 0x110000) :
    ∃ c : Char, c.toNat = n ∧ String.utf8EncodeChar c = [b, b₁, b₂, b₃] := by
  rw [Follows] at second third fourth
  obtain ⟨c, hc⟩ := exists_char (n := n) (by omega)
  refine ⟨c, hc, ?_⟩
  rw [String.utf8EncodeChar, Char.toNat_val, hc, if_neg (by omega), if_neg (by omega),
    if_neg (by omega), ← eq_ofNat b (by omega), ← eq_ofNat b₁ (by omega),
    ← eq_ofNat b₂ (by omega), ← eq_ofNat b₃ (by omega)]

end Octets

/-- A character goes on with an octet within the bounds. -/
theorem continued_succ_eq_some {low high count n m : Nat} {bs rest : List UInt8}
    (h : continued low high (count + 1) n bs = (some m, rest)) :
    ∃ b more, bs = b :: more ∧ (low ≤ b.toNat ∧ b.toNat ≤ high) ∧
      continued 0x80 0xBF count (n * 0x40 + b.toNat % 0x40) more = (some m, rest) := by
  cases bs with
  | nil => simp [continued] at h
  | cons b more =>
      simp only [continued] at h
      split at h
      · exact ⟨b, more, rfl, ‹_›, h⟩
      · simp at h

theorem continued_zero_eq_some {low high n m : Nat} {bs rest : List UInt8}
    (h : continued low high 0 n bs = (some m, rest)) : n = m ∧ bs = rest := by
  rw [continued_zero] at h
  simpa using h

/-- What is read as a character is the octets of that character. -/
theorem exists_char_of_unit {b : UInt8} {bs rest : List UInt8} {n : Nat}
    (h : unit b bs = (some n, rest)) :
    ∃ c : Char, c.toNat = n ∧ b :: bs = String.utf8EncodeChar c ++ rest := by
  simp only [unit] at h
  split_ifs at h with one two e0 ed three f0 four f4
  · obtain ⟨rfl, rfl⟩ : b.toNat = n ∧ bs = rest := by simpa using h
    obtain ⟨c, hc, octets⟩ := exists_char_one one
    exact ⟨c, hc, octets ▸ rfl⟩
  · obtain ⟨b₁, more, rfl, second, h⟩ := continued_succ_eq_some h
    obtain ⟨rfl, rfl⟩ := continued_zero_eq_some h
    obtain ⟨c, hc, octets⟩ := exists_char_two two second
    exact ⟨c, hc, octets ▸ rfl⟩
  -- The bounds of the second octet keep the number in the range of its width.
  iterate 3
    obtain ⟨b₁, more, rfl, second, h⟩ := continued_succ_eq_some h
    obtain ⟨b₂, more, rfl, third, h⟩ := continued_succ_eq_some h
    obtain ⟨number, rfl⟩ := continued_zero_eq_some h
    have first : 0xE0 ≤ b.toNat ∧ b.toNat ≤ 0xEF := by omega
    have follows : Follows b₁ := ⟨by omega, by omega⟩
    obtain ⟨c, hc, octets⟩ :=
      exists_char_three (n := n) first follows third (by omega) (by omega)
    exact ⟨c, hc, octets ▸ rfl⟩
  iterate 3
    obtain ⟨b₁, more, rfl, second, h⟩ := continued_succ_eq_some h
    obtain ⟨b₂, more, rfl, third, h⟩ := continued_succ_eq_some h
    obtain ⟨b₃, more, rfl, fourth, h⟩ := continued_succ_eq_some h
    obtain ⟨number, rfl⟩ := continued_zero_eq_some h
    have first : 0xF0 ≤ b.toNat ∧ b.toNat ≤ 0xF7 := by omega
    have follows : Follows b₁ := ⟨by omega, by omega⟩
    obtain ⟨c, hc, octets⟩ :=
      exists_char_four (n := n) first follows third fourth (by omega) (by omega)
    exact ⟨c, hc, octets ▸ rfl⟩
  · simp at h

/-- Octets that decode to a text are the octets of that text. -/
theorem encode_of_decode? {cs : List Char} {bs : List UInt8} (h : decode? bs = some cs) :
    encode (String.ofList cs) = bs := by
  rw [encode_eq, String.toList_ofList]
  rw [decode?] at h
  fun_induction units bs generalizing cs with
  | case1 =>
      cases h
      rfl
  | case2 b bs u =>
      rename_i ih
      rw [List.mapM_cons] at h
      obtain ⟨c, hc, h⟩ := Option.bind_eq_some_iff.1 h
      obtain ⟨cs', hcs, h⟩ := Option.bind_eq_some_iff.1 h
      cases h
      obtain ⟨n, hn, rfl⟩ := Option.map_eq_some_iff.1 hc
      obtain ⟨c, rfl, octets⟩ := exists_char_of_unit (Prod.ext hn rfl)
      rw [List.flatMap_cons, ih hcs, Char.ofNat_toNat, octets]

/-- Octets do not decode exactly if they are those of no text. -/
theorem decode?_eq_none_iff {bs : List UInt8} : decode? bs = none ↔ ∀ s, encode s ≠ bs := by
  constructor
  · rintro undecodable s rfl
    rw [decode?_encode] at undecodable
    cases undecodable
  · intro foreign
    cases decoded : decode? bs with
    | none => rfl
    | some cs => exact absurd (encode_of_decode? decoded) (foreign _)

end Typewright.Text
