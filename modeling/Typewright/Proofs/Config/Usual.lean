import Typewright.Config.Warning
import Typewright.Proofs.Outcome
import Typewright.Proofs.Text.Identifiers

/-!
# Usual representations

A configuration without warnings represents each scalar that can be configured by a text that is
*usual*: one known word, or two with a bar between (`Config.usual_of_warnings`). Whatever the blanks
around the words, such a text has no identifiers but those of the known words
(`exists_word_of_isUsual`).
-/

namespace Typewright

/-- Every identifier of a usual text is one of a known word. -/
theorem exists_word_of_isUsual {allowed : List String} {s : String}
    (usual : isUsual allowed s = true) {run : List Char}
    (h : run ∈ Text.identifiers s.toList) : ∃ w ∈ allowed, run ∈ Text.identifiers w.toList := by
  have bar : Text.isIdentifierChar '|' = false := by decide
  rw [← Text.join_split '|' s.toList, Text.identifiers_join bar] at h
  obtain ⟨piece, hp, hrun⟩ := List.mem_flatMap.1 h
  have known : Text.trim (String.ofList piece) ∈ allowed := by
    obtain ⟨_, all⟩ := Bool.and_eq_true_iff.1 usual
    have member := List.all_eq_true.1 all _ (List.mem_map_of_mem hp)
    simpa using member
  refine ⟨_, known, ?_⟩
  rw [Text.identifiers_trim, String.toList_ofList]
  exact hrun

namespace Config

theorem usual_of_representationWarnings {c : Config} {p : Setting × List String}
    (h : c.representationWarnings p = .ok []) :
    ∃ s, c.value p.1 = .str s ∧ isUsual p.2 s = true := by
  obtain ⟨s, hs, h⟩ := bind_eq_ok.1 h
  have value : c.value p.1 = .str s := by
    unfold Value.withOperation at hs
    split at hs
    · next t ht => cases hs; exact ht
    · cases hs
  refine ⟨s, value, ?_⟩
  by_contra unusual
  rw [if_neg unusual, pure_eq_ok] at h
  cases h

/-- Where nothing is doubtful every representation is usual. -/
theorem usual_of_warnings {c : Config} (h : c.warnings = .ok []) :
    ∀ p ∈ representations, ∃ s, c.value p.1 = .str s ∧ isUsual p.2 s = true := by
  intro p hp
  obtain ⟨forms, hforms, h⟩ := bind_eq_ok.1 h
  obtain ⟨names, _, h⟩ := bind_eq_ok.1 h
  have none : forms.flatten = [] := by
    have all := pure_eq_ok.1 h
    simp only [List.append_eq_nil_iff] at all
    exact all.1.1.1.2
  obtain ⟨ws, hws, made⟩ := mapM_ok_mem hforms p hp
  rw [List.flatten_eq_nil_iff.1 none ws hws] at made
  exact usual_of_representationWarnings made

end Config

end Typewright
