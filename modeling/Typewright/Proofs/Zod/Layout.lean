import Typewright.Proofs.Layout.Names
import Typewright.Proofs.Layout.Sections
import Typewright.Proofs.Zod.File

/-!
# Sections of schemas are tidy

The schema of a field is a line: a base is one, since an enum has a name with something to show, and
modifiers are put around it. So each entry of an object schema is a line behind a margin, whether a
comma or the closing brace comes next.
-/

namespace Typewright.Zod

open Layout

variable {c : Config} {n : Naming} {d : Datamodel}

/-! ## Expressions -/

theorem isLine_scalarSchema (f : Field) (s : Scalar) : IsLine (scalarSchema c f s) := by
  rw [scalarSchema.eq_def]
  split
  · decide
  · decide
  · decide
  · decide
  · split <;> decide
  · split <;> decide
  · decide
  · decide
  · decide

theorem isLine_tagSchema {f : Field} {s : String} (h : tagSchema c f = .ok s) : IsLine s := by
  rw [tagSchema] at h
  split at h
  · cases h
    exact isLine_scalarSchema f _
  · split at h
    · exact absurd h mismatched_ne_ok
    · cases h
      decide

theorem trimmed_ending (c : Config) (f : Field) : Trimmed (ending c f) := by
  rw [ending]
  split
  · exact Or.inl rfl
  · split <;> exact Or.inr (by decide)

theorem isLine_modified {f : Field} {base : String} (h : IsLine base) :
    IsLine (modified c f base) := by
  have body : IsLine (if f.isList.truthy then "z.array(" ++ base ++ ")" else base) := by
    split
    · exact .append (oneLine_append.2 ⟨by decide, h.oneLine⟩) (by decide)
    · exact h
  exact body.append_trimmed (trimmed_ending c f)

/-- The schema of a field is a line. -/
theorem isLine_entry (names : n.Trimmed) {f : Field} {e : Entry} (h : entry c n f = .ok (some e)) :
    e.name = f.name ∧ IsLine e.schema := by
  rw [entry] at h
  cases kind : f.kind with
  | object =>
      rw [kind] at h
      cases h
  | enum =>
      rw [kind] at h
      obtain ⟨enum, he, h⟩ := map_eq_ok.1 h
      cases h
      exact ⟨rfl, isLine_modified (names.enumName he)⟩
  | scalar =>
      rw [kind, baseSchema, kind] at h
      obtain ⟨base, hb, h⟩ := map_eq_ok.1 h
      cases h
      exact ⟨rfl, isLine_modified (isLine_tagSchema hb)⟩
  | unsupported =>
      rw [kind, baseSchema, kind] at h
      cases h
      exact ⟨rfl, isLine_modified (by decide)⟩

/-! ## Schemas -/

theorem stands_enum {s : EnumSchema} (hn : OneLine s.name) (hv : ∀ v ∈ s.values, v.IsOneLine) :
    Stands s.text := by
  have values : OneLine (String.intercalate ", " (s.values.map Value.quoted)) := by
    refine oneLine_intercalate (by decide) fun t ht => ?_
    obtain ⟨v, hmem, rfl⟩ := List.mem_map.1 ht
    exact (hv v hmem).quoted.oneLine
  refine (IsLine.append ?_ (by decide)).stands
  simp only [oneLine_append]
  exact ⟨⟨⟨by decide, hn⟩, by decide⟩, values⟩

theorem stands_object {s : ObjectSchema} (hn : OneLine s.name)
    (he : ∀ e ∈ s.entries, OneLine e.name.display ∧ IsLine e.schema) : Stands s.text := by
  have opening : IsLine ("export const " ++ s.name ++ " = z.object(\x7b") :=
    .append (oneLine_append.2 ⟨by decide, hn⟩) (by decide)
  refine (opening.stands.append (follows_intercalate (by decide) fun t ht => ?_)).append (by decide)
  obtain ⟨e, hmem, rfl⟩ := List.mem_map.1 ht
  obtain ⟨name, schema⟩ := he e hmem
  rw [String.append_assoc, String.append_assoc]
  exact (IsLine.append name (.append (by decide) schema)).margin

/-! ## Sections -/

/-- Every section of a file of schemas stands. -/
theorem stands_of_sections (words : d.Unspaced) (names : n.Trimmed) {parts : List String}
    (h : sections c n d = .ok parts) : ∀ s ∈ parts, Stands s := by
  obtain ⟨enums, he, h⟩ := bind_eq_ok.1 h
  obtain ⟨models, hm, h⟩ := bind_eq_ok.1 h
  cases pure_eq_ok.1 h
  intro s hs
  rw [List.mem_append, List.mem_append, List.mem_singleton, List.mem_map, List.mem_map] at hs
  obtain (rfl | ⟨schema, hmem, rfl⟩) | ⟨schema, hmem, rfl⟩ := hs
  · decide
  · obtain ⟨e, mem, made⟩ := mapM_ok_mem_result he schema hmem
    obtain ⟨hn, hv⟩ := enumSchema_eq_ok.1 made
    exact stands_enum (names.enumName hn).oneLine
      fun v hval => (words.values e mem v (hv ▸ hval)).isOneLine
  · obtain ⟨m, mem, made⟩ := mapM_ok_mem_result hm schema hmem
    obtain ⟨hn, found, hf, entries⟩ := objectSchema_eq_ok.1 made
    refine stands_object (names.declarationName hn).oneLine fun e hentry => ?_
    rw [entries] at hentry
    obtain ⟨o, ho, hoe⟩ := List.mem_filterMap.1 hentry
    obtain ⟨f, hfm, built⟩ := mapM_ok_mem_result hf o ho
    cases hoe
    obtain ⟨same, schema⟩ := isLine_entry names built
    exact ⟨same ▸ (words.fields m (List.mem_append_left _ mem) f hfm).display.oneLine, schema⟩

end Typewright.Zod
