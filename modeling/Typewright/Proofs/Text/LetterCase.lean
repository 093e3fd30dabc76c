import Mathlib.Data.List.Basic
import Typewright.Text.LetterCase

/-!
# Small letters stay small

A character is *small* when no run of the tables has it as a capital and it is not the dotted
capital I. Small characters are their own small letters (`lowerChar_of_isSmall`), and a text in
small letters holds no others (`isSmall_of_mem_lowerAfter`), so writing a text in small letters
twice is writing it once (`lower_lower`).

That no small letter is a capital is a fact about the tables. Comparing every small letter with
every capital takes long, so both lists are written as numbers with one bit for each member
(`bitsOf`), which have no bit in common.
-/

namespace Typewright.Text

/-! ## The tables as lists -/

/-- The distances of the capitals of a run from the first one. -/
def CaseRun.offsets (r : CaseRun) : List Nat :=
  (List.range (r.last + 1 - r.first)).filter fun k => k % r.step = 0

/-- The code points that the tables have as capitals. -/
def capitals : List Nat := caseRuns.flatMap fun r => r.offsets.map (r.first + ·)

/-- The code points of their small letters. -/
def smallLetters : List Nat := caseRuns.flatMap fun r => r.offsets.map (r.small + ·)

theorem CaseRun.small?_eq_some {r : CaseRun} {n m : Nat} :
    r.small? n = some m ↔ ∃ k ∈ r.offsets, n = r.first + k ∧ m = r.small + k := by
  rw [small?]
  constructor
  · intro h
    split at h
    next here =>
      cases h
      refine ⟨n - r.first, ?_, by omega, rfl⟩
      rw [offsets, List.mem_filter, List.mem_range]
      exact ⟨by omega, decide_eq_true here.2.2⟩
    · cases h
  · rintro ⟨k, hk, rfl, rfl⟩
    rw [offsets, List.mem_filter, List.mem_range] at hk
    have distance : r.first + k - r.first = k := Nat.add_sub_cancel_left _ _
    rw [distance, if_pos ⟨by omega, by omega, of_decide_eq_true hk.2⟩]

theorem mem_of_findSome?_small {n m : Nat} (h : caseRuns.findSome? (·.small? n) = some m) :
    n ∈ capitals ∧ m ∈ smallLetters := by
  obtain ⟨r, hr, h⟩ := List.exists_of_findSome?_eq_some h
  obtain ⟨k, hk, rfl, rfl⟩ := CaseRun.small?_eq_some.1 h
  exact ⟨List.mem_flatMap.2 ⟨r, hr, List.mem_map_of_mem hk⟩,
    List.mem_flatMap.2 ⟨r, hr, List.mem_map_of_mem hk⟩⟩

/-! ## No small letter is a capital -/

/-- The number with a bit at each of the given places. -/
def bitsOf (ns : List Nat) : Nat := ns.foldr (fun n bits => 1 <<< n ||| bits) 0

theorem testBit_bitsOf (ns : List Nat) (n : Nat) : (bitsOf ns).testBit n = decide (n ∈ ns) := by
  induction ns with
  | nil => simp [bitsOf]
  | cons m ms ih =>
      have bits : bitsOf (m :: ms) = 1 <<< m ||| bitsOf ms := rfl
      rw [bits, Nat.testBit_or, ih, Nat.one_shiftLeft, Nat.testBit_two_pow]
      simp [eq_comm]

theorem disjoint_of_bitsOf {ms ns : List Nat} (h : bitsOf ms &&& bitsOf ns = 0) {n : Nat}
    (hn : n ∈ ms) : n ∉ ns := by
  intro both
  have bit := congrArg (Nat.testBit · n) h
  simp [testBit_bitsOf, hn, both] at bit

theorem notMem_capitals_of_mem {n : Nat} (h : n ∈ smallLetters) : n ∉ capitals :=
  disjoint_of_bitsOf (by decide +kernel) h

/-- The code point of the dotted capital I. -/
def dottedCapital : Nat := 'İ'.toNat

theorem smallLetters_isValidChar : ∀ n ∈ smallLetters, n.isValidChar ∧ n ≠ dottedCapital := by
  decide +kernel

theorem capitals_below : ∀ n ∈ capitals, n < 0x80 → 0x41 ≤ n ∧ n ≤ 0x5A := by decide +kernel

/-! ## Small characters -/

/-- Whether a character is no capital. -/
def IsSmall (c : Char) : Prop := c.toNat ∉ capitals ∧ c.toNat ≠ dottedCapital

instance (c : Char) : Decidable (IsSmall c) := inferInstanceAs (Decidable (_ ∧ _))

theorem IsSmall.ne_capitalSigma {c : Char} (h : IsSmall c) : c ≠ capitalSigma := by
  rintro rfl
  exact h.1 (by decide +kernel)

/-- What holds of every character of ASCII is seen from the code points. -/
@[elab_as_elim]
theorem of_below {motive : Char → Prop} (c : Char) (below : c.toNat < 0x80)
    (h : ∀ n < 0x80, motive (Char.ofNat n)) : motive c := by
  have here := h c.toNat below
  rwa [Char.ofNat_toNat] at here

/-- Below `0x80` the capitals are those of the first run. -/
theorem toLower_below {c : Char} (below : c.toNat < 0x80) :
    c.toLower.toNat < 0x80 ∧ ¬ (0x41 ≤ c.toLower.toNat ∧ c.toLower.toNat ≤ 0x5A) ∧
      (¬ (0x41 ≤ c.toNat ∧ c.toNat ≤ 0x5A) → c.toLower = c) := by
  refine of_below c below ?_
  decide +kernel

theorem mem_capitals {n : Nat} (low : 0x41 ≤ n) (high : n ≤ 0x5A) : n ∈ capitals := by
  obtain ⟨k, rfl⟩ := Nat.exists_eq_add_of_le low
  refine List.mem_flatMap.2 ⟨⟨0x41, 0x5A, 1, 0x61⟩, List.mem_cons_self, ?_⟩
  refine List.mem_map_of_mem ?_
  rw [CaseRun.offsets, List.mem_filter, List.mem_range]
  exact ⟨by dsimp only; omega, decide_eq_true (Nat.mod_one k)⟩

theorem lowerChar_of_isSmall {c : Char} (h : IsSmall c) : lowerChar c = [c] := by
  rw [lowerChar]
  split
  next below =>
    rw [(toLower_below below).2.2 fun range => h.1 (mem_capitals range.1 range.2)]
  split
  next dotted => exact absurd (congrArg Char.toNat dotted) h.2
  split
  next n hn => exact absurd (mem_of_findSome?_small hn).1 h.1
  next => rfl

theorem isSmall_of_mem_lowerChar {c d : Char} (h : d ∈ lowerChar c) : IsSmall d := by
  rw [lowerChar] at h
  split at h
  next below =>
    rw [List.mem_singleton.1 h]
    have bounds := toLower_below below
    refine ⟨fun capital => bounds.2.1 (capitals_below _ capital bounds.1), ?_⟩
    exact Nat.ne_of_lt (Nat.lt_trans bounds.1 (by decide))
  next notBelow =>
    split at h
    · have both : IsSmall 'i' ∧ IsSmall '\u0307' := by decide +kernel
      exact List.forall_mem_cons.2 ⟨both.1, List.forall_mem_singleton.2 both.2⟩ d h
    next notDotted =>
      split at h
      next n hn =>
        have member := (mem_of_findSome?_small hn).2
        have valid := smallLetters_isValidChar n member
        have number : (Char.ofNat n).toNat = n := by
          rw [Char.ofNat, dif_pos valid.1]
          rfl
        rw [List.mem_singleton.1 h, IsSmall, number]
        exact ⟨notMem_capitals_of_mem member, valid.2⟩
      next none =>
        rw [List.mem_singleton.1 h]
        refine ⟨fun capital => ?_, fun dotted => notDotted (Char.toNat_inj.1 dotted)⟩
        obtain ⟨r, hr, hk⟩ := List.mem_flatMap.1 capital
        obtain ⟨k, hk, hc⟩ := List.mem_map.1 hk
        have found := CaseRun.small?_eq_some.2 ⟨k, hk, hc.symm, rfl⟩
        rw [List.findSome?_eq_none_iff.1 none r hr] at found
        cases found

/-! ## Texts in small letters -/

theorem isSmall_of_mem_lowerAfter {before cs : List Char} {d : Char}
    (h : d ∈ lowerAfter before cs) : IsSmall d := by
  induction cs generalizing before with
  | nil => cases h
  | cons c rest ih =>
      rw [lowerAfter] at h
      cases List.mem_append.1 h with
      | inl here =>
          split at here
          · have both : IsSmall 'ς' ∧ IsSmall 'σ' := by decide +kernel
            rw [List.mem_singleton.1 here]
            split
            · exact both.1
            · exact both.2
          · exact isSmall_of_mem_lowerChar here
      | inr later => exact ih later

theorem lowerAfter_of_isSmall {before cs : List Char} (h : ∀ c ∈ cs, IsSmall c) :
    lowerAfter before cs = cs := by
  induction cs generalizing before with
  | nil => rfl
  | cons c rest ih =>
      have here := h c List.mem_cons_self
      rw [lowerAfter, if_neg here.ne_capitalSigma, lowerChar_of_isSmall here,
        ih fun d hd => h d (List.mem_cons_of_mem _ hd)]
      rfl

theorem isSmall_of_mem_lower {s : String} {d : Char} (h : d ∈ (lower s).toList) : IsSmall d := by
  rw [lower, String.toList_ofList] at h
  exact isSmall_of_mem_lowerAfter h

theorem lower_of_isSmall {s : String} (h : ∀ c ∈ s.toList, IsSmall c) : lower s = s := by
  rw [lower, lowerAfter_of_isSmall h, String.ofList_toList]

/-- Small letters are written in small letters already. -/
theorem lower_lower (s : String) : lower (lower s) = lower s :=
  lower_of_isSmall fun _ hc => isSmall_of_mem_lower hc

/-! ## Words of ASCII -/

/-- Of the capitals outside of ASCII, only the Kelvin sign has a small letter in ASCII. -/
theorem below_of_small_below : ∀ r ∈ caseRuns, ∀ k ∈ r.offsets,
    r.small + k < 0x80 → r.small + k ≠ 'k'.toNat → r.first + k < 0x80 := by
  decide +kernel

theorem below_of_lowerChar {c : Char} (h : ∀ d ∈ lowerChar c, d.toNat < 0x80 ∧ d ≠ 'k') :
    c.toNat < 0x80 := by
  by_contra notBelow
  rw [lowerChar, if_neg notBelow] at h
  split at h
  · have dot := (h '\u0307' (by simp)).1
    exact absurd dot (by decide)
  split at h
  next n found =>
    obtain ⟨r, hr, found⟩ := List.exists_of_findSome?_eq_some found
    obtain ⟨k, hk, code, rfl⟩ := CaseRun.small?_eq_some.1 found
    obtain ⟨below, other⟩ := h _ List.mem_cons_self
    have valid := smallLetters_isValidChar _ (List.mem_flatMap.2 ⟨r, hr, List.mem_map_of_mem hk⟩)
    have number : (Char.ofNat (r.small + k)).toNat = r.small + k := by
      rw [Char.ofNat, dif_pos valid.1]
      rfl
    rw [number] at below
    refine notBelow (code ▸ below_of_small_below r hr k hk below fun same => other ?_)
    rw [same]
    rfl
  next => exact notBelow (h c List.mem_cons_self).1

theorem lowerAfter_of_below {before cs : List Char} (h : ∀ c ∈ cs, c.toNat < 0x80) :
    lowerAfter before cs = cs.map Char.toLower := by
  induction cs generalizing before with
  | nil => rfl
  | cons c rest ih =>
      have here := h c List.mem_cons_self
      have noSigma : c ≠ capitalSigma := by
        rintro rfl
        exact absurd here (by decide)
      rw [lowerAfter, if_neg noSigma, lowerChar, if_pos here,
        ih fun d hd => h d (List.mem_cons_of_mem _ hd)]
      rfl

theorem below_of_lowerAfter {before cs : List Char}
    (h : ∀ d ∈ lowerAfter before cs, d.toNat < 0x80 ∧ d ≠ 'k') : ∀ c ∈ cs, c.toNat < 0x80 := by
  induction cs generalizing before with
  | nil => simp
  | cons c rest ih =>
      rw [lowerAfter, List.forall_mem_append] at h
      refine List.forall_mem_cons.2 ⟨?_, ih h.2⟩
      by_cases sigma : c = capitalSigma
      · rw [if_pos sigma, List.forall_mem_singleton] at h
        have low := h.1.1
        split at low
        · exact absurd low (by decide)
        · exact absurd low (by decide)
      · rw [if_neg sigma] at h
        exact below_of_lowerChar h.1

theorem below_of_toLower {c : Char} (h : c.toLower.toNat < 0x80) : c.toNat < 0x80 := by
  delta Char.toLower at h
  split at h
  next capital =>
    have high := UInt32.le_iff_toNat_le.1 capital.2
    exact Nat.lt_of_le_of_lt high (by decide)
  next => exact h

/-- Whether a word is in ASCII and has no letter that the Kelvin sign could stand for. -/
def isPlainWord (word : String) : Bool := word.toList.all fun d => d.toNat < 0x80 && d != 'k'

/-- Whether a text is a word of small letters of ASCII but for the case of its letters. -/
def IsWordInAnyCase (word text : String) : Prop := text.toList.map Char.toLower = word.toList

/-- A text is a word in small letters exactly if it is the word in any letter case: outside of ASCII
nothing but the Kelvin sign has a small letter of ASCII. -/
theorem lower_eq_iff {word : String} (plain : isPlainWord word = true) (text : String) :
    lower text = word ↔ IsWordInAnyCase word text := by
  have plain : ∀ d ∈ word.toList, d.toNat < 0x80 ∧ d ≠ 'k' := by
    simpa [isPlainWord] using plain
  rw [lower, ← String.toList_inj, String.toList_ofList, IsWordInAnyCase]
  constructor
  · intro same
    rw [← same]
    exact (lowerAfter_of_below (below_of_lowerAfter (same ▸ plain))).symm
  · intro same
    rw [← same]
    refine lowerAfter_of_below fun c hc => below_of_toLower ?_
    exact (plain c.toLower (same ▸ List.mem_map_of_mem hc)).1

end Typewright.Text
