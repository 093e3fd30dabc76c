import Typewright.Proofs.Config.Layers

/-!
# Canonical spelling twice

What a name stands for stands for itself, with one exception: it may be the spelling that follows no
rule, which stands for another name again. That happens to the spellings of it that start with
capitals (`Spelling.canonical_eq_irregular_iff`), because the exception is looked for before a name
is written in small letters. So writing entries in canonical spelling twice is writing them once
exactly if none of their names is one of those (`Entries.canonical_canonical_iff`), and the third
time never changes anything (`Entries.canonical_canonical_canonical`).
-/

namespace Typewright

namespace Spelling

/-! ## Names without underscores -/

theorem mem_separate_cons {c d : Char} {cs : List Char} (h : d ∈ separate cs) :
    d ∈ separate (c :: cs) := by
  cases cs with
  | nil => cases h
  | cons e rest =>
      rw [separate]
      split
      · exact List.mem_cons_of_mem _ (List.mem_cons_of_mem _ h)
      · exact List.mem_cons_of_mem _ h

theorem separate_eq_self {cs : List Char} (joined : '_' ∉ separate cs) : separate cs = cs := by
  induction cs with
  | nil => rfl
  | cons c rest ih =>
      have later := ih fun h => joined (mem_separate_cons h)
      cases rest with
      | nil => rfl
      | cons d rest =>
          rw [separate] at joined ⊢
          split at joined
          · simp at joined
          next apart => rw [if_neg apart, later]

theorem startsWord_eq_false {c d : Char} {cs : List Char} (small : endsWord c = true)
    (joined : '_' ∉ separate (c :: d :: cs)) : startsWord d = false := by
  rw [separate, small, Bool.true_and] at joined
  split at joined
  · simp at joined
  next inside => exact Bool.eq_false_iff.2 inside

/-! ## Words with capitals at the start -/

theorem toUpper_toLower {c : Char} (h : startsWord c = true) : c.toLower.toUpper = c := by
  have bounds := Bool.and_eq_true_iff.1 h
  have below : c.toNat < 0x80 :=
    Nat.lt_of_le_of_lt (UInt32.le_iff_toNat_le.1 (of_decide_eq_true bounds.2)) (by decide)
  refine Text.of_below c below ?_ h
  decide +kernel

theorem toLower_of_startsWord {c : Char} (h : startsWord c = false) : c.toLower = c := by
  delta Char.toLower
  split
  next capital =>
    rw [startsWord, Bool.and_eq_false_iff, decide_eq_false_iff_not, decide_eq_false_iff_not] at h
    exact absurd capital (not_and_or.2 h)
  next => rfl

/-- After a small letter no capital comes, unless an underscore does. -/
theorem map_toLower_of_endsWord {c : Char} {cs : List Char} (small : endsWord c = true)
    (letters : ∀ d ∈ cs, endsWord d.toLower = true) (joined : '_' ∉ separate (c :: cs)) :
    cs.map Char.toLower = cs := by
  induction cs generalizing c with
  | nil => rfl
  | cons d rest ih =>
      have same := toLower_of_startsWord (startsWord_eq_false small joined)
      have next := letters d List.mem_cons_self
      rw [same] at next
      rw [List.map_cons, same, ih next (fun e he => letters e (List.mem_cons_of_mem _ he))
        fun h => joined (mem_separate_cons h)]

/-- A word with some of its first letters as capitals. -/
def withCapitals (word : List Char) (n : Nat) : List Char :=
  (word.take n).map Char.toUpper ++ word.drop n

/-- A word in any letter case to which no underscore is added has its capitals at the start. -/
theorem exists_withCapitals {cs : List Char} (letters : ∀ c ∈ cs, endsWord c.toLower = true)
    (joined : '_' ∉ separate cs) :
    ∃ n ≤ cs.length, cs = withCapitals (cs.map Char.toLower) n := by
  induction cs with
  | nil => exact ⟨0, Nat.zero_le _, rfl⟩
  | cons c rest ih =>
      have later : ∀ d ∈ rest, endsWord d.toLower = true := fun d hd =>
        letters d (List.mem_cons_of_mem _ hd)
      cases first : startsWord c with
      | true =>
          obtain ⟨n, bound, same⟩ := ih later fun h => joined (mem_separate_cons h)
          refine ⟨n + 1, Nat.succ_le_succ bound, ?_⟩
          rw [withCapitals, List.map_cons, List.take_succ_cons, List.drop_succ_cons, List.map_cons,
            toUpper_toLower first, List.cons_append]
          exact congrArg (c :: ·) same
      | false =>
          have same := toLower_of_startsWord first
          have small := letters c List.mem_cons_self
          rw [same] at small
          have rest_same := map_toLower_of_endsWord small later joined
          refine ⟨0, Nat.zero_le _, ?_⟩
          rw [withCapitals, List.map_cons, same, rest_same]
          rfl

/-! ## The names that stand for the spelling that follows no rule -/

/-- The spelling that follows no rule, with one or more of its first letters as capitals. -/
def capitalised : List String :=
  (List.range irregular.length).map fun n => String.ofList (withCapitals irregular.toList (n + 1))

example : capitalised = ["Prettier", "PRettier", "PREttier", "PRETtier", "PRETTier", "PRETTIer",
    "PRETTIEr", "PRETTIER"] := by
  decide +kernel

theorem mem_capitalised {name : String} (other : name ≠ irregular)
    (word : Text.IsWordInAnyCase irregular name) (joined : '_' ∉ separate name.toList) :
    name ∈ capitalised := by
  rw [Text.IsWordInAnyCase] at word
  have letters : ∀ c ∈ name.toList, endsWord c.toLower = true := fun c hc => by
    have all : irregular.toList.all endsWord = true := by decide
    exact List.all_eq_true.1 all _ (word ▸ List.mem_map_of_mem hc)
  obtain ⟨n, bound, same⟩ := exists_withCapitals letters joined
  rw [word] at same
  cases n with
  | zero => exact absurd (String.toList_inj.1 same) other
  | succ n =>
      refine List.mem_map.2 ⟨n, List.mem_range.2 ?_, ?_⟩
      · rw [← List.length_map (f := Char.toLower), word] at bound
        exact bound
      · rw [← same, String.ofList_toList]

theorem canonical_eq_irregular_iff {name : String} :
    canonical name = irregular ↔ name ∈ capitalised := by
  constructor
  · intro spelled
    have other : name ≠ irregular := fun same => canonical_irregular_ne (same ▸ spelled)
    rw [canonical_of_ne other, Text.lower_eq_iff (by decide), Text.IsWordInAnyCase,
      String.toList_ofList] at spelled
    -- The word has no underscore, so none was written into the name.
    have joined : '_' ∉ separate name.toList := fun h => by
      have member := List.mem_map_of_mem (f := Char.toLower) h
      rw [spelled] at member
      exact absurd member (by decide)
    rw [separate_eq_self joined] at spelled
    exact mem_capitalised other spelled joined
  · have all : ∀ name ∈ capitalised, canonical name = irregular := by decide +kernel
    exact all name

/-- What is canonical is small, and so it does not start with a capital. -/
theorem canonical_canonical_ne_irregular (name : String) :
    canonical (canonical name) ≠ irregular := by
  rw [ne_eq, canonical_eq_irregular_iff]
  intro member
  have capital : ∀ name ∈ capitalised, name.toList.any (fun c => ¬ Text.IsSmall c) = true := by
    decide +kernel
  obtain ⟨c, hc, large⟩ := List.any_eq_true.1 (capital _ member)
  exact of_decide_eq_true large (isSmall_of_mem_canonical hc)

end Spelling

/-! ## Entries in canonical spelling twice -/

namespace Entries

theorem canonical_canonical_of_regular {es : Entries}
    (regular : ∀ e ∈ es, e.1 ∉ Spelling.capitalised) : es.canonical.canonical = es.canonical := by
  refine canonical_eq_self (nodup_canonical es) fun e he => ?_
  obtain ⟨f, hf, spelled, _⟩ := mem_canonical he
  rw [← spelled]
  exact Spelling.canonical_eq_self fun same =>
    regular f hf (Spelling.canonical_eq_irregular_iff.1 same)

/-- The spelling that follows no rule is not found in entries that were written in canonical
spelling twice. -/
theorem get?_irregular (es : Entries) :
    es.canonical.canonical.get? Spelling.irregular = none := by
  rw [get?_eq_none_iff, mem_map_fst_canonical]
  rintro ⟨e, he, spelled⟩
  obtain ⟨f, _, same, _⟩ := mem_canonical he
  rw [← same] at spelled
  exact Spelling.canonical_canonical_ne_irregular f.1 spelled

theorem regular_of_get?_irregular {es : Entries}
    (absent : es.canonical.get? Spelling.irregular = none) :
    ∀ e ∈ es, e.1 ∉ Spelling.capitalised := by
  rw [get?_eq_none_iff, mem_map_fst_canonical] at absent
  exact fun e he member => absent ⟨e, he, Spelling.canonical_eq_irregular_iff.2 member⟩

/-- The second time changes nothing, neither the entries nor what is found in them, exactly if no
name is the spelling that follows no rule but for capitals at its start. -/
theorem canonical_canonical_iff (es : Entries) :
    (es.canonical.canonical = es.canonical ↔ ∀ e ∈ es, e.1 ∉ Spelling.capitalised) ∧
      ((∀ name, es.canonical.canonical.get? name = es.canonical.get? name) ↔
        ∀ e ∈ es, e.1 ∉ Spelling.capitalised) := by
  have regular_of_found
      (h : es.canonical.canonical.get? Spelling.irregular = es.canonical.get? Spelling.irregular) :
      ∀ e ∈ es, e.1 ∉ Spelling.capitalised :=
    regular_of_get?_irregular (h.symm.trans (get?_irregular es))
  refine ⟨⟨fun same => regular_of_found ?_, canonical_canonical_of_regular⟩,
    ⟨fun found => regular_of_found (found _), fun regular name => ?_⟩⟩
  · rw [same]
  · rw [canonical_canonical_of_regular regular]

/-- What is a custom value the first time is a flag the second time. -/
theorem canonical_canonical_of_capital :
    canonical [("Prettier", .bool true)] = [("prettier", .bool true)] ∧
      canonical (canonical [("Prettier", .bool true)]) =
        [(Setting.formatOutput.name, .bool true)] :=
  ⟨rfl, rfl⟩

/-- The third time changes nothing. -/
theorem canonical_canonical_canonical (es : Entries) :
    es.canonical.canonical.canonical = es.canonical.canonical :=
  canonical_canonical_of_regular (regular_of_get?_irregular (get?_irregular es))

end Entries

end Typewright
