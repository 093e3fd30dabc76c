import Typewright.Pg.Import
import Typewright.Proofs.Layout.Names
import Typewright.Proofs.Outcome
import Typewright.Proofs.Path

/-!
# Specifiers on one line

What a data-access file imports from is made of parts of configured paths, with one exception: the
way from the one file to the other may lead through the working directory. So the specifier is on
one line if the settings are and the names of the directories above are (`oneLine_typesModule`).
-/

namespace Typewright

open Layout

/-! ## Paths -/

namespace Path

theorem oneLine_ofString {s : String} (h : OneLine s) :
    ∀ part ∈ (ofString s).parts, OneLine part := by
  intro part hp
  obtain ⟨piece, hpiece, rfl⟩ := List.mem_map.1 (List.mem_of_mem_filter hp)
  rw [OneLine, String.toList_ofList]
  exact fun feed => h (Text.mem_of_mem_split hpiece _ feed)

theorem oneLine_name {p : Path} (h : ∀ part ∈ p.parts, OneLine part) : OneLine p.name := by
  rw [name]
  cases hl : p.parts.getLast? with
  | none => decide
  | some part => exact h part (List.mem_of_getLast? hl)

theorem oneLine_cutSuffix {name : String} (h : OneLine name) : OneLine (cutSuffix name).1 :=
  fun feed => h (mem_of_mem_cutSuffix feed)

theorem oneLine_withoutSuffix? {p q : Path} (h : ∀ part ∈ p.parts, OneLine part)
    (hq : p.withoutSuffix? = some q) : ∀ part ∈ q.parts, OneLine part := by
  intro part hp
  obtain hp | rfl := mem_of_withoutSuffix? hq hp
  · exact h part hp
  · exact oneLine_cutSuffix (oneLine_name h)

theorem oneLine_between {start target : List String} (h : ∀ part ∈ target, OneLine part) :
    ∀ part ∈ between start target, OneLine part := by
  intro part hp
  obtain rfl | hp := mem_between hp
  · decide
  · exact h part hp

theorem oneLine_relativeText {parts : List String} (h : ∀ part ∈ parts, OneLine part) :
    OneLine (relativeText parts) := by
  rw [relativeText]
  split
  · decide
  · exact oneLine_intercalate (by decide) h

end Path

/-! ## Specifiers -/

theorem Value.IsOneLine.path {v : Value} (h : v.IsOneLine) {s : String} (hs : v.path = .ok s) :
    OneLine s := by
  cases Value.path_eq_ok.1 hs
  exact h

namespace Pg

theorem oneLine_specifier {directory : List String} {declarations dataAccess : Path}
    (seen : ∀ part ∈ directory, OneLine part)
    (hd : ∀ part ∈ declarations.parts, OneLine part) :
    OneLine (specifier directory declarations dataAccess) := by
  have way : OneLine (Path.relativeText (Path.between (Path.resolve directory dataAccess.parent)
      (Path.resolve directory declarations))) := by
    refine Path.oneLine_relativeText (Path.oneLine_between fun part hp => ?_)
    exact (Path.mem_of_mem_resolve hp).elim (seen part) (hd part)
  rw [specifier, dotted]
  split
  · exact way
  · exact oneLine_append.2 ⟨by decide, way⟩

/-- The specifier that a configuration gives is on one line. -/
theorem oneLine_typesModule {directory : List String} {c : Config} {s : String}
    (settings : c.Unspaced) (seen : ∀ part ∈ directory, OneLine part)
    (h : typesModule directory c = .ok s) : OneLine s := by
  have configured := settings.settings .output rfl (by decide)
  rw [typesModule] at h
  split at h
  · cases h
    decide
  · obtain ⟨text, ht, h⟩ := bind_eq_ok.1 h
    have parts := Path.oneLine_ofString (configured.path ht)
    cases hd : (Path.ofString text).withoutSuffix? with
    | none =>
        simp only [hd] at h
        cases h
    | some declarations =>
        have cut := Path.oneLine_withoutSuffix? parts hd
        simp only [hd] at h
        split at h
        · rw [← pure_eq_ok.1 h]
          exact OneLine.append (by decide) (Path.oneLine_name cut)
        · obtain ⟨place, _, h⟩ := bind_eq_ok.1 h
          rw [← pure_eq_ok.1 h]
          exact oneLine_specifier seen cut

end Pg

end Typewright
