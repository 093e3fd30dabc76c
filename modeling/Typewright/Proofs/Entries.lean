import Mathlib.Data.List.Nodup
import Typewright.Value.Table

/-!
# Entries put one after the other

Putting entries keeps the names distinct (`nodup_putAll`), and an entry is found afterwards only if
it was there or was put (`mem_putAll`). New entries under new names are appended
(`putAll_eq_append`).

A table whose names are all texts behaves as the entries do (`Table.putAll_ofEntries`).
-/

namespace Typewright

namespace Entries

/-! ## Finding and being a member -/

theorem mem_of_get? {es : Entries} {name : String} {v : Value} (h : es.get? name = some v) :
    (name, v) ∈ es := by
  obtain ⟨before, after, rfl, _⟩ := List.lookup_eq_some_iff.1 h
  simp

theorem get?_of_mem {es : Entries} (nodup : (es.map Prod.fst).Nodup) {e : String × Value}
    (h : e ∈ es) : es.get? e.1 = some e.2 := by
  induction es with
  | nil => cases h
  | cons first rest ih =>
      obtain ⟨notMem, nodup⟩ := List.nodup_cons.1 nodup
      rw [get?_cons]
      cases List.mem_cons.1 h with
      | inl here => rw [here, if_pos rfl]
      | inr later =>
          have other : e.1 ≠ first.1 := fun same => notMem (same ▸ List.mem_map_of_mem later)
          rw [if_neg other, ih nodup later]

theorem get?_eq_none_iff {es : Entries} {name : String} :
    es.get? name = none ↔ name ∉ es.map Prod.fst := by
  induction es with
  | nil => simp
  | cons first rest ih =>
      rw [get?_cons]
      by_cases h : name = first.1
      · simp [h]
      · simp [h, ih]

theorem get?_append (es fs : Entries) (name : String) :
    get? (es ++ fs) name = (es.get? name).or (get? fs name) := by
  induction es with
  | nil => rfl
  | cons first rest ih =>
      rw [List.cons_append, get?_cons, get?_cons, ih]
      split <;> rfl

/-! ## Putting entries -/

theorem put_eq_append {es : Entries} {name : String} {v : Value}
    (h : name ∉ es.map Prod.fst) : es.put name v = es ++ [(name, v)] := by
  induction es with
  | nil => rfl
  | cons first rest ih =>
      rw [List.map_cons, List.mem_cons, not_or] at h
      rw [put, if_neg fun same => h.1 same.symm, ih h.2]
      rfl

theorem mem_put {es : Entries} {name : String} {v : Value} {e : String × Value}
    (h : e ∈ es.put name v) : e ∈ es ∨ e = (name, v) := by
  induction es with
  | nil => exact .inr (List.mem_singleton.1 h)
  | cons first rest ih =>
      rw [put] at h
      split at h
      next known =>
        cases List.mem_cons.1 h with
        | inl here => exact .inr (here.trans (by rw [known]))
        | inr later => exact .inl (List.mem_cons_of_mem _ later)
      next =>
        cases List.mem_cons.1 h with
        | inl here => exact .inl (here ▸ List.mem_cons_self)
        | inr later => exact (ih later).imp_left (List.mem_cons_of_mem _)

theorem nodup_put {es : Entries} {name : String} {v : Value} (h : (es.map Prod.fst).Nodup) :
    ((es.put name v).map Prod.fst).Nodup := by
  rw [map_fst_put]
  split
  · exact h
  next fresh => exact List.nodup_append'.2 ⟨h, List.nodup_singleton name, by simpa using fresh⟩

theorem mem_putAll {es new : Entries} {e : String × Value} (h : e ∈ es.putAll new) :
    e ∈ es ∨ e ∈ new := by
  induction new generalizing es with
  | nil => exact .inl h
  | cons f new ih =>
      cases ih h with
      | inl put =>
          exact (mem_put put).imp_right fun same => List.mem_cons.2 (.inl same)
      | inr later => exact .inr (List.mem_cons_of_mem _ later)

theorem nodup_putAll {es new : Entries} (h : (es.map Prod.fst).Nodup) :
    ((es.putAll new).map Prod.fst).Nodup := by
  induction new generalizing es with
  | nil => exact h
  | cons f new ih => exact ih (nodup_put h)

theorem mem_map_fst_putAll {es new : Entries} {name : String} :
    name ∈ (es.putAll new).map Prod.fst ↔ name ∈ es.map Prod.fst ∨ name ∈ new.map Prod.fst := by
  induction new generalizing es with
  | nil => simp [putAll]
  | cons f new ih =>
      have next : (es.putAll (f :: new)).map Prod.fst =
          ((es.put f.1 f.2).putAll new).map Prod.fst := rfl
      have names : name ∈ (es.put f.1 f.2).map Prod.fst ↔
          name ∈ es.map Prod.fst ∨ name = f.1 := by
        rw [map_fst_put]
        split
        next known => exact (or_iff_left_of_imp fun same => same ▸ known).symm
        next => simp
      rw [next, ih, names, or_assoc, List.map_cons, List.mem_cons]

/-- New entries under new names go to the end. -/
theorem putAll_eq_append {es new : Entries} (h : ((es ++ new).map Prod.fst).Nodup) :
    es.putAll new = es ++ new := by
  induction new generalizing es with
  | nil => exact (List.append_nil es).symm
  | cons f new ih =>
      have fresh : f.1 ∉ es.map Prod.fst := by
        rw [List.map_append, List.nodup_append'] at h
        exact fun known => h.2.2 known (List.mem_map_of_mem List.mem_cons_self)
      have regrouped : es ++ f :: new = es ++ [f] ++ new := by simp
      have next : es.putAll (f :: new) = (es.put f.1 f.2).putAll new := rfl
      rw [next, put_eq_append fresh, regrouped]
      exact ih (regrouped ▸ h)

/-- After entries are put, the last of them under a name is found, or else what was there. -/
theorem get?_putAll (es new : Entries) (name : String) :
    (es.putAll new).get? name = (get? new.reverse name).or (es.get? name) := by
  induction new generalizing es with
  | nil => rfl
  | cons f new ih =>
      have next : es.putAll (f :: new) = (es.put f.1 f.2).putAll new := rfl
      rw [next, ih, List.reverse_cons, get?_append, get?_put, get?_cons, get?_nil]
      split
      · rw [Option.or_assoc]
        rfl
      · rw [Option.or_none]

theorem putAll_nil {es : Entries} (h : (es.map Prod.fst).Nodup) : putAll [] es = es :=
  putAll_eq_append h

theorem get?_reverse {es : Entries} (nodup : (es.map Prod.fst).Nodup) (name : String) :
    get? es.reverse name = es.get? name := by
  have same := get?_putAll [] es name
  rwa [putAll_nil nodup, get?_nil, Option.or_none, eq_comm] at same

theorem get?_filter (keep : String → Bool) (es : Entries) (name : String) :
    get? (es.filter fun e => keep e.1) name = if keep name then es.get? name else none := by
  induction es with
  | nil => simp
  | cons first rest ih =>
      rw [List.filter_cons, get?_cons]
      by_cases here : name = first.1
      · subst here
        cases kept : keep first.1 with
        | true => simp [get?_cons]
        | false => simp [ih, kept]
      · cases kept : keep first.1 with
        | true => simp [get?_cons, here, ih]
        | false => simp [here, ih]

end Entries

/-! ## Tables of entries -/

namespace Table

theorem put_ofEntries (es : Entries) (name : String) (v : Value) :
    (ofEntries es).put (.str name) v = ofEntries (es.put name v) := by
  induction es with
  | nil => rfl
  | cons e rest ih =>
      have entries : ofEntries (e :: rest) = (.str e.1, e.2) :: ofEntries rest := rfl
      have same : (Value.str e.1).key? = (Value.str name).key? ↔ e.1 = name := by simp
      rw [entries, put, Entries.put, ih]
      by_cases here : e.1 = name
      · rw [if_pos (same.2 here), if_pos here]
        rfl
      · rw [if_neg fun keys => here (same.1 keys), if_neg here]
        rfl

theorem putAll_ofEntries (es new : Entries) :
    (ofEntries es).putAll (ofEntries new) = ofEntries (es.putAll new) := by
  induction new generalizing es with
  | nil => rfl
  | cons e new ih =>
      have next : (ofEntries es).putAll (ofEntries (e :: new)) =
          ((ofEntries es).put (.str e.1) e.2).putAll (ofEntries new) := rfl
      rw [next, put_ofEntries, ih]
      rfl

end Table

end Typewright
