import Typewright.Config
import Typewright.Config.Spelling
import Typewright.Proofs.Text.LetterCase

/-!
# Canonical spellings

A canonical spelling is in small letters, so that no underscore is missing in it, and it is its own
canonical spelling unless it happens to be the spelling that follows no rule
(`canonical_eq_self`). Names of settings are canonical (`canonical_name`).
-/

namespace Typewright.Spelling

/-! ## Texts without capitals -/

theorem startsWord_of_isSmall {c : Char} (h : Text.IsSmall c) : startsWord c = false := by
  by_contra capital
  rw [Bool.not_eq_false, startsWord, Bool.and_eq_true, decide_eq_true_eq, decide_eq_true_eq]
    at capital
  exact h.1 (Text.mem_capitals capital.1 capital.2)

theorem separate_of_isSmall {cs : List Char} (h : ∀ c ∈ cs, Text.IsSmall c) :
    separate cs = cs := by
  induction cs with
  | nil => rfl
  | cons c rest ih =>
      cases rest with
      | nil => rfl
      | cons d rest =>
          have later := ih fun e he => h e (List.mem_cons_of_mem _ he)
          have next := startsWord_of_isSmall (h d (List.mem_cons_of_mem _ List.mem_cons_self))
          rw [separate, next, Bool.and_false, if_neg Bool.false_ne_true, later]

/-! ## Spellings that follow no rule -/

/-- The spelling that follows no rule. -/
def irregular : String := "prettier"

theorem eq_irregular_of_lookup {name target : String} (h : aliases.lookup name = some target) :
    name = irregular := by
  obtain ⟨before, after, split, _⟩ := List.lookup_eq_some_iff.1 h
  have member : (name, target) ∈ aliases := by
    rw [split]
    simp
  rw [aliases, List.mem_singleton] at member
  exact congrArg Prod.fst member

theorem canonical_irregular : canonical irregular = Setting.formatOutput.name := rfl

theorem canonical_irregular_ne : canonical irregular ≠ irregular := by decide

theorem canonical_of_ne {name : String} (h : name ≠ irregular) :
    canonical name = Text.lower (String.ofList (separate name.toList)) := by
  rw [canonical]
  cases hl : aliases.lookup name with
  | some target => exact absurd (eq_irregular_of_lookup hl) h
  | none => rfl

/-! ## Canonical spellings are canonical -/

theorem isSmall_of_mem_canonical {name : String} {c : Char} (h : c ∈ (canonical name).toList) :
    Text.IsSmall c := by
  by_cases special : name = irregular
  · have small : (canonical irregular).toList.all (fun d => Text.IsSmall d) = true := by
      decide +kernel
    exact of_decide_eq_true (List.all_eq_true.1 small c (special ▸ h))
  · rw [canonical_of_ne special] at h
    exact Text.isSmall_of_mem_lower h

theorem canonical_of_isSmall {name : String} (plain : name ≠ irregular)
    (h : ∀ c ∈ name.toList, Text.IsSmall c) : canonical name = name := by
  rw [canonical_of_ne plain, separate_of_isSmall h, String.ofList_toList,
    Text.lower_of_isSmall h]

/-- What a name stands for stands for itself, or is the spelling that follows no rule. -/
theorem canonical_eq_self {name : String} (plain : canonical name ≠ irregular) :
    canonical (canonical name) = canonical name :=
  canonical_of_isSmall plain fun _ => isSmall_of_mem_canonical

theorem canonical_name (s : Setting) : canonical s.name = s.name := by
  cases s <;> rfl

end Typewright.Spelling
