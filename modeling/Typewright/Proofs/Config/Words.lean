import Typewright.Proofs.Config.Spelling
import Typewright.Text.Lines

/-!
# Names made of words

A name made of words is spelled with capitals at their starts, the first one aside, or with
underscores between them. Both spellings stand for the second one (`canonical_camelCase`), as long
as no word between the first and the last is a single letter. Such a letter is a capital before a
capital, and no underscore is written between the two.

An underscore is written where a word ends (`separate_append_cons`) and not after its capital
(`separate_cons`), so what is left to read after a capital starts like the end of a word. That is
what the words are taken apart by (`separate_append_words`).
-/

namespace Typewright.Spelling

/-! ## Words -/

/-- A word of a name: a small letter of ASCII, and small letters or digits after it. -/
structure Word where
  first : Char
  rest : List Char
  isLetter_first : 'a' ≤ first ∧ first ≤ 'z'
  endsWord_rest : ∀ c ∈ rest, endsWord c = true

namespace Word

/-- The characters of a word. -/
def letters (w : Word) : List Char := w.first :: w.rest

/-- A word that starts with a capital. -/
def withCapital (w : Word) : List Char := w.first.toUpper :: w.rest

end Word

/-- Words put together, all but the first with capitals. -/
def camelCase : List Word → String
  | [] => ""
  | w :: ws => String.ofList (w.letters ++ ws.flatMap Word.withCapital)

/-- Words with underscores between them. -/
def snakeCase (ws : List Word) : String :=
  String.ofList (Text.join ['_'] (ws.map Word.letters))

/-! ## Letters and digits of ASCII -/

theorem below_of_endsWord {c : Char} (h : endsWord c = true) : c.toNat < 0x80 := by
  rw [endsWord, Bool.or_eq_true, Bool.and_eq_true, Bool.and_eq_true, decide_eq_true_eq,
    decide_eq_true_eq, decide_eq_true_eq, decide_eq_true_eq] at h
  obtain ⟨_, high⟩ | ⟨_, high⟩ := h
  · exact Nat.lt_of_le_of_lt (UInt32.le_iff_toNat_le.1 high) (by decide)
  · exact Nat.lt_of_le_of_lt (UInt32.le_iff_toNat_le.1 high) (by decide)

theorem isSmall_of_endsWord {c : Char} (h : endsWord c = true) : Text.IsSmall c := by
  have below := below_of_endsWord h
  have noCapital : ¬ (0x41 ≤ c.toNat ∧ c.toNat ≤ 0x5A) := by
    refine Text.of_below c below ?_ h
    decide +kernel
  exact ⟨fun capital => noCapital (Text.capitals_below _ capital below),
    Nat.ne_of_lt (Nat.lt_trans below (by decide))⟩

theorem startsWord_of_endsWord {c : Char} (h : endsWord c = true) : startsWord c = false :=
  startsWord_of_isSmall (isSmall_of_endsWord h)

theorem toLower_of_endsWord {c : Char} (h : endsWord c = true) : c.toLower = c := by
  have same := Text.lowerChar_of_isSmall (isSmall_of_endsWord h)
  rw [Text.lowerChar, if_pos (below_of_endsWord h)] at same
  exact (List.cons.inj same).1

/-- The capital of a letter has that letter as its small one. -/
theorem toUpper_of_letter {c : Char} (h : 'a' ≤ c ∧ c ≤ 'z') :
    endsWord c = true ∧ startsWord c.toUpper = true ∧ c.toUpper.toLower = c := by
  have below : c.toNat < 0x80 := Nat.lt_of_le_of_lt (UInt32.le_iff_toNat_le.1 h.2) (by decide)
  refine Text.of_below c below ?_ h
  decide +kernel

/-! ## Where underscores are written -/

/-- An underscore is written where a capital follows small letters or digits. -/
theorem separate_append_cons {cs : List Char} {d : Char} (some_letter : cs ≠ [])
    (letters : ∀ c ∈ cs, endsWord c = true) (capital : startsWord d = true) (more : List Char) :
    separate (cs ++ d :: more) = cs ++ '_' :: separate (d :: more) := by
  induction cs with
  | nil => exact absurd rfl some_letter
  | cons c rest ih =>
      cases rest with
      | nil =>
          have here := letters c List.mem_cons_self
          rw [List.singleton_append, separate, here, capital, Bool.true_and, if_pos rfl]
          rfl
      | cons e rest =>
          have next := startsWord_of_endsWord (letters e (by simp))
          have later := ih (List.cons_ne_nil e rest) fun x hx =>
            letters x (List.mem_cons_of_mem c hx)
          rw [List.cons_append, List.cons_append, separate, next, Bool.and_false,
            if_neg Bool.false_ne_true, ← List.cons_append, later]
          rfl

/-- No underscore is written after a capital, so that one is never written twice. -/
theorem separate_cons {c : Char} (capital : startsWord c = true) (cs : List Char) :
    separate (c :: cs) = c :: separate cs := by
  have other : endsWord c = false := by
    by_contra small
    rw [Bool.not_eq_false] at small
    cases capital.symm.trans (startsWord_of_endsWord small)
  cases cs with
  | nil => rfl
  | cons d cs => rw [separate, other, Bool.false_and, if_neg Bool.false_ne_true]

/-- Words with capitals come apart after what a word ends with, and after each but the last of them
if there is something after its capital. -/
theorem separate_append_words {cs : List Char} {ws : List Word}
    (letters : ∀ c ∈ cs, endsWord c = true) (some_letter : ws ≠ [] → cs ≠ [])
    (long : ∀ w ∈ ws.dropLast, w.rest ≠ []) :
    separate (cs ++ ws.flatMap Word.withCapital) =
      Text.join ['_'] (cs :: ws.map Word.withCapital) := by
  induction ws generalizing cs with
  | nil =>
      rw [List.flatMap_nil, List.append_nil,
        separate_of_isSmall fun c hc => isSmall_of_endsWord (letters c hc)]
      rfl
  | cons w ws ih =>
      have capital := (toUpper_of_letter w.isLetter_first).2.1
      have long : (ws ≠ [] → w.rest ≠ []) ∧ ∀ v ∈ ws.dropLast, v.rest ≠ [] := by
        cases ws with
        | nil => exact ⟨absurd rfl, nofun⟩
        | cons v ws =>
            rw [List.dropLast_cons_cons, List.forall_mem_cons] at long
            exact ⟨fun _ => long.1, long.2⟩
      -- What follows the capital is read as the end of a word.
      have later := ih w.endsWord_rest long.1 long.2
      rw [List.flatMap_cons, Word.withCapital, List.cons_append,
        separate_append_cons (some_letter (List.cons_ne_nil w ws)) letters capital,
        separate_cons capital, later, ← Text.join_cons_head]
      simp [Text.join, Word.withCapital]

/-! ## Words in small letters -/

namespace Word

theorem endsWord_letters (w : Word) : ∀ c ∈ w.letters, endsWord c = true :=
  List.forall_mem_cons.2 ⟨(toUpper_of_letter w.isLetter_first).1, w.endsWord_rest⟩

theorem map_toLower_letters (w : Word) : w.letters.map Char.toLower = w.letters := by
  rw [List.map_congr_left fun c hc => toLower_of_endsWord (w.endsWord_letters c hc), List.map_id']

theorem map_toLower_withCapital (w : Word) : w.withCapital.map Char.toLower = w.letters := by
  have rest : w.rest.map Char.toLower = w.rest := (List.cons.inj w.map_toLower_letters).2
  rw [withCapital, List.map_cons, (toUpper_of_letter w.isLetter_first).2.2, rest, letters]

theorem below_withCapital (w : Word) : ∀ c ∈ w.withCapital, c.toNat < 0x80 := by
  refine List.forall_mem_cons.2 ⟨?_, fun c hc => below_of_endsWord (w.endsWord_rest c hc)⟩
  have small := toUpper_of_letter w.isLetter_first
  refine Text.below_of_toLower ?_
  rw [small.2.2]
  exact below_of_endsWord small.1

end Word

theorem isSmall_of_mem_snakeCase {ws : List Word} :
    ∀ c ∈ (snakeCase ws).toList, Text.IsSmall c := by
  intro c hc
  rw [snakeCase, String.toList_ofList] at hc
  obtain hc | ⟨p, hp, hc⟩ := Text.mem_join hc
  · rw [List.mem_singleton.1 hc]
    decide +kernel
  · obtain ⟨w, _, rfl⟩ := List.mem_map.1 hp
    exact isSmall_of_endsWord (w.endsWord_letters c hc)

theorem lower_join_withCapital (w : Word) (ws : List Word) :
    Text.lower (String.ofList (Text.join ['_'] (w.letters :: ws.map Word.withCapital))) =
      snakeCase (w :: ws) := by
  have below : ∀ c ∈ Text.join ['_'] (w.letters :: ws.map Word.withCapital), c.toNat < 0x80 := by
    intro c hc
    obtain hc | ⟨p, hp, hc⟩ := Text.mem_join hc
    · rw [List.mem_singleton.1 hc]
      decide
    · obtain rfl | hp := List.mem_cons.1 hp
      · exact below_of_endsWord (w.endsWord_letters c hc)
      · obtain ⟨v, _, rfl⟩ := List.mem_map.1 hp
        exact v.below_withCapital c hc
  have words : (ws.map Word.withCapital).map (List.map Char.toLower) = ws.map Word.letters := by
    rw [List.map_map]
    exact List.map_congr_left fun v _ => v.map_toLower_withCapital
  rw [Text.lower, String.toList_ofList, Text.lowerAfter_of_below below, Text.map_join,
    List.map_cons (l := ws.map Word.withCapital), w.map_toLower_letters, words]
  rfl

/-! ## Both spellings -/

theorem ne_irregular {name : String} (h : name ∉ aliases.map Prod.fst) : name ≠ irregular := by
  rintro rfl
  exact h List.mem_cons_self

/-- Words in either spelling stand for the words with underscores between them, unless that is a
spelling that follows no rule, if no word between the first and the last is a single letter. -/
theorem canonical_camelCase {ws : List Word}
    (long : ∀ w ∈ ws.tail.dropLast, 2 ≤ w.letters.length) :
    (camelCase ws ∉ aliases.map Prod.fst → canonical (camelCase ws) = snakeCase ws) ∧
      (snakeCase ws ∉ aliases.map Prod.fst → canonical (snakeCase ws) = snakeCase ws) := by
  refine ⟨fun regular => ?_,
    fun regular => canonical_of_isSmall (ne_irregular regular) isSmall_of_mem_snakeCase⟩
  cases ws with
  | nil => rfl
  | cons w ws =>
      have long : ∀ v ∈ ws.dropLast, v.rest ≠ [] := by
        intro v hv none
        have two := long v hv
        rw [Word.letters, none] at two
        exact Nat.not_succ_le_self 1 two
      have apart := separate_append_words w.endsWord_letters (fun _ => List.cons_ne_nil _ _) long
      rw [canonical_of_ne (ne_irregular regular), camelCase, String.toList_ofList, apart,
        lower_join_withCapital]

/-- Words of which the first and the last are a single letter. -/
def coordinateWords : List Word :=
  [⟨'x', [], by decide, by simp⟩, ⟨'b', ['6', '4'], by decide, List.all_eq_true.1 rfl⟩,
    ⟨'y', [], by decide, by simp⟩]

theorem canonical_coordinateWords :
    (∀ w ∈ coordinateWords.tail.dropLast, 2 ≤ w.letters.length) ∧
      canonical "xB64Y" = "x_b64_y" ∧ canonical "x_b64_y" = "x_b64_y" := by
  have long : ∀ w ∈ coordinateWords.tail.dropLast, 2 ≤ w.letters.length := by decide
  have both := canonical_camelCase long
  exact ⟨long, both.1 (by decide), both.2 (by decide)⟩

/-- A single letter between two words stays with the word after it. -/
example : canonical "xBYz" = "x_byz" := rfl

end Typewright.Spelling
