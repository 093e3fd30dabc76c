import Mathlib.Data.List.Nodup
import Mathlib.Data.List.Perm.Subperm
import Typewright.FileTree.Outputs

/-!
# Contents of files, and names not in use

What a file tree holds is seen through its regular files (`FileTree.content?`). Making directories
changes none of them, since it adds directories and nothing else (`makeDirectories_addsDirectories`),
and a file that is put changes its own place only.

A temporary file goes to a place where nothing is (`get?_temporaryPlace`). One number more is tried
than the tree has entries, and different numbers give different names.
-/

namespace Typewright.FileTree

/-! ## Contents -/

/-- Whether two trees have the same regular files with the same contents. -/
def SameFiles (t t' : FileTree) : Prop := ∀ p, t'.content? p = t.content? p

theorem SameFiles.refl (t : FileTree) : t.SameFiles t := fun _ => rfl

theorem content?_of_get?_eq_none {t : FileTree} {p : Place} (h : t.get? p = none) :
    t.content? p = none := by
  rw [content?, h]

theorem content?_put_file {t : FileTree} {p q : Place} {content : List UInt8} (hp : p ≠ []) :
    (t.put p (.file content)).content? q = if q = p then some content else t.content? q := by
  rw [content?, get?_put t p _ q hp]
  by_cases h : q = p
  · rw [if_pos h, if_pos h]
  · rw [if_neg h, if_neg h]
    rfl

/-! ## Making directories -/

/-- Whether a tree has everything that another one has, and directories besides. -/
def AddsDirectories (t next : FileTree) : Prop :=
  ∀ p, next.get? p = t.get? p ∨ t.get? p = none ∧ next.get? p = some .directory

theorem AddsDirectories.refl (t : FileTree) : t.AddsDirectories t := fun _ => .inl rfl

theorem AddsDirectories.trans {t₁ t₂ t₃ : FileTree} (h₁ : t₁.AddsDirectories t₂)
    (h₂ : t₂.AddsDirectories t₃) : t₁.AddsDirectories t₃ := by
  intro p
  obtain same₁ | ⟨free₁, made₁⟩ := h₁ p
  · obtain same₂ | ⟨free₂, made₂⟩ := h₂ p
    · exact .inl (same₂.trans same₁)
    · exact .inr ⟨same₁.symm.trans free₂, made₂⟩
  · obtain same₂ | ⟨free₂, _⟩ := h₂ p
    · exact .inr ⟨free₁, same₂.trans made₁⟩
    · cases made₁.symm.trans free₂

theorem AddsDirectories.sameFiles {t next : FileTree} (h : t.AddsDirectories next) :
    t.SameFiles next := by
  intro p
  obtain same | ⟨free, made⟩ := h p
  · rw [content?, content?, same]
  · rw [content?, content?, free, made]

theorem addsDirectories_put {t : FileTree} {p : Place} (root : p ≠ []) (free : t.get? p = none) :
    t.AddsDirectories (t.put p .directory) := by
  intro q
  rw [get?_put t p _ q root]
  by_cases here : q = p
  · rw [if_pos here, here]
    exact .inr ⟨free, rfl⟩
  · rw [if_neg here]
    exact .inl rfl

theorem makeDirectory_addsDirectories {t made : FileTree} {directory : Place} {path : Path}
    (h : t.makeDirectory directory path = .ok made) : t.AddsDirectories made := by
  rw [makeDirectory] at h
  split at h
  · cases h
  split at h
  · cases h
  split at h
  · cases h
  split at h
  · cases h
  next q _ =>
    split at h
    · cases h
    next free =>
      cases h
      have root : q ≠ [] := by
        rintro rfl
        exact free rfl
      exact addsDirectories_put root (by simpa [holds] using free)

theorem settle_fst (t : FileTree) (directory : Place) (path : Path) (e : FileProblem) :
    (t.settle directory path e).1 = t := by
  rw [settle]
  split
  · rfl
  · rfl

/-- Making directories adds directories, whether it fails or not. -/
theorem makeDirectories_addsDirectories (t : FileTree) (directory : Place) (path : Path) :
    t.AddsDirectories (t.makeDirectories directory path).1 := by
  fun_induction makeDirectories t directory path with
  | case1 path made h => exact makeDirectory_addsDirectories h
  | case2 path h => exact .refl t
  | case3 path h notRoot above e hrec ih =>
      rw [hrec] at ih
      exact ih
  | case4 path h notRoot above hrec made hmade ih =>
      rw [hrec] at ih
      exact ih.trans (makeDirectory_addsDirectories hmade)
  | case5 path h notRoot above hrec hmissing ih =>
      rw [hrec] at ih
      exact ih
  | case6 path h notRoot above hrec e _ _ ih =>
      rw [hrec] at ih
      rw [settle_fst]
      exact ih
  | case7 path e he =>
      rw [settle_fst]
      exact .refl t

/-! ## Names not in use -/

theorem temporaryName_injective (name : String) : Function.Injective (temporaryName name) := by
  intro m n same
  have digits := String.ofList_injective
    ((String.append_right_inj _).1 ((String.append_left_inj _).1 same))
  have number (k : Nat) :
      Nat.ofDigitChars 10 (List.replicate (8 - (Nat.toDigits 10 k).length) '0' ++
        Nat.toDigits 10 k) 0 = k := by
    rw [Nat.ofDigitChars_append, Nat.ofDigitChars_replicate_zero, Nat.mul_zero,
      Nat.ofDigitChars_ten_toDigits]
  rw [← number m, ← number n, digits]

theorem mem_places_of_holds {t : FileTree} {p : Place} (root : p ≠ []) (h : t.holds p = true) :
    p ∈ t.entries.map (·.place) := by
  rw [holds, get?] at h
  simp only [List.length_eq_zero_iff, root, if_false, Option.isSome_map, Entry.isAt_eq] at h
  obtain ⟨e, he⟩ := Option.isSome_iff_exists.1 h
  have here := List.find?_some he
  exact List.mem_map.2 ⟨e, List.mem_of_find?_eq_some he, of_decide_eq_true here⟩

/-- Some number up to the number of entries gives a name that is not in use. -/
theorem exists_free (t : FileTree) (p : Place) (name : String) :
    ∃ n ∈ List.range (t.entries.length + 1), t.holds (p ++ [temporaryName name n]) = false := by
  by_contra used
  have places : (List.range (t.entries.length + 1)).map (fun n => p ++ [temporaryName name n]) ⊆
      t.entries.map (·.place) := by
    intro q hq
    obtain ⟨n, hn, rfl⟩ := List.mem_map.1 hq
    refine mem_places_of_holds (by simp) ?_
    by_contra free
    exact used ⟨n, hn, Bool.eq_false_iff.2 free⟩
  have nodup : ((List.range (t.entries.length + 1)).map
      fun n => p ++ [temporaryName name n]).Nodup := by
    refine List.Nodup.map (fun m n same => ?_) List.nodup_range
    exact temporaryName_injective name (List.singleton_inj.1 (List.append_cancel_left same))
  have few := (nodup.subperm places).length_le
  rw [List.length_map, List.length_map, List.length_range] at few
  omega

theorem get?_temporaryPlace (t : FileTree) (p : Place) (name : String) :
    t.get? (t.temporaryPlace p name) = none := by
  rw [temporaryPlace]
  cases hf : (List.range (t.entries.length + 1)).find?
      fun n => !t.holds (p ++ [temporaryName name n]) with
  | some n =>
      have free := List.find?_some hf
      simpa [holds] using free
  | none =>
      obtain ⟨n, hn, free⟩ := t.exists_free p name
      have used := List.find?_eq_none.1 hf n hn
      simp [free] at used

end Typewright.FileTree
