import Typewright.Proofs.FileTree.Places

/-!
# Are outputs written together?

Writing outputs is meant to write all of them or none. Staging keeps to this, unless something is
misused: it adds temporary files at places where nothing was, and directories (`AddsFiles`,
`stageAll_addsFiles`), so that the files are as they were once the temporary ones are discarded.
Moving does not: what was moved stays moved, and at least the temporary file whose move failed is
still there (`moveAll_leaves`).

So a failure leaves the files as they were exactly when it came while outputs were staged
(`writeOutputs_sameFiles_iff`), and there are failures that came later
(`writeOutputs_not_atomic`).
-/

namespace Typewright.FileTree

/-- The places of temporary files. -/
def temporaries (staged : List Staged) : List Place := staged.map (·.temporary)

/-! ## Staging -/

/-- A tree that has files more than another at certain places where nothing was, and directories
besides. -/
structure AddsFiles (t next : FileTree) (places : List Place) : Prop where
  /-- No place comes twice. -/
  nodup : places.Nodup
  /-- Elsewhere there is what was there, or a new directory. -/
  kept : ∀ p, p ∉ places →
    next.get? p = t.get? p ∨ t.get? p = none ∧ next.get? p = some .directory
  /-- There was nothing at the places. -/
  fresh : ∀ p ∈ places, t.get? p = none
  /-- There is a file at each of the places. -/
  written : ∀ p ∈ places, ∃ content, next.get? p = some (.file content)

theorem AddsDirectories.addsFiles {t next : FileTree} (h : t.AddsDirectories next) :
    t.AddsFiles next [] :=
  ⟨List.nodup_nil, fun p _ => h p, by simp, by simp⟩

theorem AddsFiles.append {t next last : FileTree} {ps qs : List Place} (h₁ : t.AddsFiles next ps)
    (h₂ : next.AddsFiles last qs) : t.AddsFiles last (ps ++ qs) := by
  -- A place of `ps` is taken by the time that those of `qs` are free.
  have apart : ∀ p ∈ ps, p ∉ qs := by
    intro p hp hq
    obtain ⟨content, written⟩ := h₁.written p hp
    rw [h₂.fresh p hq] at written
    cases written
  refine ⟨?_, ?_, ?_, ?_⟩
  · exact List.nodup_append'.2 ⟨h₁.nodup, h₂.nodup, fun p hp hq => apart p hp hq⟩
  · intro p hp
    rw [List.mem_append, not_or] at hp
    obtain same₁ | ⟨free, made₁⟩ := h₁.kept p hp.1
    · rw [← same₁]
      exact h₂.kept p hp.2
    · obtain same₂ | ⟨free₂, _⟩ := h₂.kept p hp.2
      · exact .inr ⟨free, same₂.trans made₁⟩
      · cases made₁.symm.trans free₂
  · intro p hp
    by_cases hps : p ∈ ps
    · exact h₁.fresh p hps
    · have hqs := (List.mem_append.1 hp).resolve_left hps
      obtain same | ⟨free, _⟩ := h₁.kept p hps
      · exact same.symm.trans (h₂.fresh p hqs)
      · exact free
  · intro p hp
    cases List.mem_append.1 hp with
    | inl hps =>
        obtain ⟨content, written⟩ := h₁.written p hps
        obtain same | ⟨free, _⟩ := h₂.kept p (apart p hps)
        · exact ⟨content, same.trans written⟩
        · cases written.symm.trans free
    | inr hqs => exact h₂.written p hqs

theorem put_addsFiles {t : FileTree} {p : Place} (content : List UInt8) (root : p ≠ [])
    (free : t.get? p = none) : t.AddsFiles (t.put p (.file content)) [p] := by
  refine ⟨List.nodup_singleton p, ?_, ?_, ?_⟩
  · intro q hq
    rw [get?_put t p _ q root, if_neg (List.ne_of_not_mem_cons hq)]
    exact .inl rfl
  · intro q hq
    rw [List.mem_singleton.1 hq, free]
  · intro q hq
    rw [List.mem_singleton.1 hq, get?_put t p _ p root, if_pos rfl]
    exact ⟨content, rfl⟩

section staging

variable {t next : FileTree} {halves : Text.Halves} {directory : Place}

/-- Staging in a directory adds one temporary file, or nothing. -/
theorem stageIn_addsFiles {out : Output} {path : Path} {result : Except WriteFailure Staged}
    (h : t.stageIn halves directory out path = (next, result))
    (noMisuse : ∀ m, result ≠ .error (.misuse m)) :
    t.AddsFiles next (temporaries result.toOption.toList) := by
  rw [stageIn] at h
  split at h
  · cases h
    exact (AddsDirectories.refl t).addsFiles
  split at h
  · cases h
    exact (AddsDirectories.refl t).addsFiles
  next p _ =>
    have root : t.temporaryPlace p path.name ≠ [] := by
      intro root
      have free := t.get?_temporaryPlace p path.name
      rw [root] at free
      cases free
    dsimp only at h
    split at h
    · cases h
      exact (AddsDirectories.refl t).addsFiles
    rw [fill] at h
    split at h
    · cases h
      exact put_addsFiles _ root (t.get?_temporaryPlace p path.name)
    · cases h
      exact absurd rfl (noMisuse _)

theorem stage_addsFiles {out : Output} {result : Except WriteFailure Staged}
    (h : t.stage halves directory out = (next, result))
    (noMisuse : ∀ m, result ≠ .error (.misuse m)) :
    t.AddsFiles next (temporaries result.toOption.toList) := by
  rw [stage] at h
  split at h
  · cases h
    exact (AddsDirectories.refl t).addsFiles
  next s _ =>
    have made := t.makeDirectories_addsDirectories directory (Path.ofString s).parent
    dsimp only at h
    split at h
    · cases h
      exact (AddsDirectories.refl t).addsFiles
    split at h
    next above e hmade =>
      cases h
      rw [hmade] at made
      exact made.addsFiles
    next above hmade =>
      rw [hmade] at made
      exact made.addsFiles.append (stageIn_addsFiles h noMisuse)

/-- Staging several outputs stops at the first of them, or goes on with the others. -/
theorem stageAll_cons {out : Output} {outs : List Output} {staged : List Staged}
    {failure : Option WriteFailure}
    (h : t.stageAll halves directory (out :: outs) = (next, staged, failure)) :
    (∃ e, t.stage halves directory out = (next, .error e) ∧ staged = [] ∧ failure = some e) ∨
      ∃ above s more, t.stage halves directory out = (above, .ok s) ∧
        above.stageAll halves directory outs = (next, more, failure) ∧ staged = s :: more := by
  rw [stageAll] at h
  split at h
  next above e hstage =>
    cases h
    exact .inl ⟨e, hstage, rfl, rfl⟩
  next above s hstage =>
    cases hrest : above.stageAll halves directory outs with
    | mk last result =>
        rw [hrest] at h
        cases h
        exact .inr ⟨above, s, result.1, hstage, hrest, rfl⟩

/-- Staging adds the temporary files of what is staged, and directories, whether an operation on
files fails or not. -/
theorem stageAll_addsFiles {outs : List Output} :
    ∀ {t : FileTree} {staged : List Staged} {failure : Option WriteFailure},
      t.stageAll halves directory outs = (next, staged, failure) →
      (∀ m, failure ≠ some (.misuse m)) → t.AddsFiles next (temporaries staged) := by
  induction outs with
  | nil =>
      intro t staged failure h _
      cases h
      exact (AddsDirectories.refl _).addsFiles
  | cons out outs ih =>
      intro t staged failure h noMisuse
      obtain ⟨e, hstage, rfl, rfl⟩ | ⟨above, s, more, hstage, hrest, rfl⟩ := stageAll_cons h
      · refine stage_addsFiles hstage fun m misused => noMisuse m ?_
        cases misused
        rfl
      · exact (stage_addsFiles hstage (by rintro _ ⟨⟩)).append (ih hrest noMisuse)

end staging

/-- A tree that has some files more than another, at certain places. -/
structure Adds (t next : FileTree) (places : List Place) : Prop where
  /-- No place comes twice. -/
  nodup : places.Nodup
  /-- Elsewhere the files are the same. -/
  kept : ∀ p, p ∉ places → next.content? p = t.content? p
  /-- There was no file at the places. -/
  fresh : ∀ p ∈ places, t.content? p = none
  /-- There is a file at each of the places. -/
  written : ∀ p ∈ places, ∃ content, next.content? p = some content

theorem AddsFiles.adds {t next : FileTree} {places : List Place} (h : t.AddsFiles next places) :
    t.Adds next places := by
  refine ⟨h.nodup, fun p hp => ?_, fun p hp => content?_of_get?_eq_none (h.fresh p hp),
    fun p hp => ?_⟩
  · obtain same | ⟨free, made⟩ := h.kept p hp
    · rw [content?, content?, same]
    · rw [content?, content?, free, made]
  · obtain ⟨content, written⟩ := h.written p hp
    exact ⟨content, by rw [content?, written]⟩

/-! ## Discarding -/

theorem get?_discard {staged : List Staged} :
    ∀ {t : FileTree}, (∀ p ∈ temporaries staged, p ≠ []) → ∀ p,
      (t.discard staged).get? p = if p ∈ temporaries staged then none else t.get? p := by
  induction staged with
  | nil =>
      intro t _ p
      rfl
  | cons s rest ih =>
      intro t roots p
      have discarded : t.discard (s :: rest) = (t.remove s.temporary).discard rest := rfl
      have root : s.temporary ≠ [] := roots _ List.mem_cons_self
      rw [discarded, ih fun q hq => roots q (List.mem_cons_of_mem _ hq), get?_remove t _ p root]
      have members : p ∈ temporaries (s :: rest) ↔ p = s.temporary ∨ p ∈ temporaries rest :=
        List.mem_cons
      by_cases hrest : p ∈ temporaries rest
      · rw [if_pos hrest, if_pos (members.2 (.inr hrest))]
      · by_cases here : p = s.temporary
        · rw [if_neg hrest, if_pos here, if_pos (members.2 (.inl here))]
        · rw [if_neg hrest, if_neg here, if_neg fun h => (members.1 h).elim here hrest]

theorem AddsFiles.roots {t next : FileTree} {places : List Place} (h : t.AddsFiles next places) :
    ∀ p ∈ places, p ≠ [] := by
  rintro p hp rfl
  cases h.fresh [] hp

/-- Discarding what staging added leaves new directories at most. -/
theorem AddsFiles.discard {t next : FileTree} {staged : List Staged}
    (h : t.AddsFiles next (temporaries staged)) : t.AddsDirectories (next.discard staged) := by
  intro p
  rw [get?_discard h.roots]
  by_cases hp : p ∈ temporaries staged
  · rw [if_pos hp]
    exact .inl (h.fresh p hp).symm
  · rw [if_neg hp]
    exact h.kept p hp

/-! ## Moving -/

/-- A move takes away one temporary file, which is then at the place of the path. All else stays. -/
theorem get?_of_move {t next : FileTree} {directory : Place} {s : Staged}
    (h : t.move directory s = .ok next) :
    (s.target.name ≠ "" ∧ s.target.name ≠ Path.up) ∧
    ∃ q content, t.locate directory s.target = .ok q ∧ t.get? q ≠ some .directory ∧
      t.get? s.temporary = some (.file content) ∧
      ∀ p, next.get? p =
        if p = q then some (.file content) else if p = s.temporary then none else t.get? p := by
  rw [move] at h
  split at h
  · cases h
  split at h
  · cases h
  next named =>
  refine ⟨not_or.1 named, ?_⟩
  split at h
  · cases h
  next q hq =>
    split at h
    · cases h
    next content hs notDirectory =>
      cases h
      have root : s.temporary ≠ [] := by
        rintro root
        rw [root] at hs
        cases hs
      have target : q ≠ [] := ne_root_of_get? notDirectory
      refine ⟨q, content, hq, notDirectory, hs, fun p => ?_⟩
      rw [get?_put _ q _ p target, get?_remove t s.temporary p root]
    · cases h

/-- A move leaves a file wherever there was one, but for the temporary file. -/
theorem move_keeps {t next : FileTree} {directory : Place} {s : Staged}
    (h : t.move directory s = .ok next) {p : Place} (other : p ≠ s.temporary)
    {content : List UInt8} (hp : t.content? p = some content) :
    ∃ content, next.content? p = some content := by
  obtain ⟨_, q, moved, _, _, _, nodes⟩ := get?_of_move h
  rw [content?, nodes, if_neg other]
  by_cases target : p = q
  · rw [if_pos target]
    exact ⟨moved, rfl⟩
  · rw [if_neg target]
    exact ⟨content, hp⟩

/-- When a move fails, a temporary file is left. -/
theorem moveAll_leaves {directory : Place} {staged : List Staged} :
    ∀ {t last : FileTree} {e : FileError}, (temporaries staged).Nodup →
      (∀ p ∈ temporaries staged, ∃ content, t.content? p = some content) →
      t.moveAll directory staged = (last, some e) →
      ∃ p ∈ temporaries staged, ∃ content, last.content? p = some content := by
  induction staged with
  | nil =>
      intro t last e _ _ h
      cases h
  | cons s rest ih =>
      intro t last e nodup written h
      obtain ⟨notMem, nodup⟩ := List.nodup_cons.1 nodup
      rw [moveAll] at h
      split at h
      -- The move that fails leaves its own temporary file; those before it leave the later ones.
      · cases h
        exact ⟨s.temporary, List.mem_cons_self, written _ List.mem_cons_self⟩
      next next hmove =>
        have kept : ∀ p ∈ temporaries rest, ∃ content, next.content? p = some content := by
          intro p hp
          obtain ⟨content, hc⟩ := written p (List.mem_cons_of_mem _ hp)
          have other : p ≠ s.temporary := by
            rintro rfl
            exact notMem hp
          exact move_keeps hmove other hc
        obtain ⟨p, hp, left⟩ := ih nodup kept h
        exact ⟨p, List.mem_cons_of_mem _ hp, left⟩

/-! ## Failures to write -/

/-- A failure leaves the files as they were exactly when it came while outputs were staged. -/
theorem writeOutputs_sameFiles_iff {t : FileTree} {halves : Text.Halves} {directory : Place}
    {outs : List Output} {e : FileError}
    (h : (t.writeOutputs halves directory outs).2 = .error (.file e)) :
    t.SameFiles (t.writeOutputs halves directory outs).1 ↔
      (t.stageAll halves directory outs).2.2.isSome = true := by
  rw [writeOutputs] at h ⊢
  cases hs : t.stageAll halves directory outs with
  | mk next rest =>
      obtain ⟨staged, failure⟩ := rest
      rw [hs] at h
      cases failure with
      | some failure =>
          refine iff_of_true ?_ rfl
          cases failure with
          | file e => exact (stageAll_addsFiles hs (by rintro _ ⟨⟩)).discard.sameFiles
          | misuse m => cases h
      | none =>
          have adds := stageAll_addsFiles hs (by rintro _ ⟨⟩)
          refine iff_of_false (fun same => ?_) Bool.false_ne_true
          dsimp only at h same
          cases hm : next.moveAll directory staged with
          | mk last failure =>
              rw [hm] at h same
              cases failure with
              | none => cases h
              | some e =>
                  obtain ⟨p, hp, content, left⟩ := moveAll_leaves adds.nodup adds.adds.written hm
                  rw [same p, adds.adds.fresh p hp] at left
                  cases left

/-- A file beside a directory. -/
def fileAndDirectory : FileTree :=
  (FileTree.empty.put ["dir"] .directory).put ["a.ts"] (.file [111, 108, 100])

/-- No path leads through a file. That is found while outputs are staged, and nothing is left of
the output that was staged before. -/
theorem sameFiles_of_path_through_file :
    (fileAndDirectory.writeOutputs .far [] [⟨.str "new.ts", "1"⟩, ⟨.str "a.ts/b.ts", "2"⟩]).2 =
        .error (.file ⟨.occupied, "a.ts", none⟩) ∧
      fileAndDirectory.SameFiles
        (fileAndDirectory.writeOutputs .far []
          [⟨.str "new.ts", "1"⟩, ⟨.str "a.ts/b.ts", "2"⟩]).1 := by
  have failed : (fileAndDirectory.writeOutputs .far []
      [⟨.str "new.ts", "1"⟩, ⟨.str "a.ts/b.ts", "2"⟩]).2 =
        .error (.file ⟨.occupied, "a.ts", none⟩) := by
    with_unfolding_all rfl
  exact ⟨failed, (writeOutputs_sameFiles_iff failed).2 (by decide +kernel)⟩

/-- No file can be moved onto a directory. That is found only after the first output was moved. -/
theorem writeOutputs_not_atomic :
    ¬ ∀ (t : FileTree) (halves : Text.Halves) (directory : Place) (outs : List Output)
      (e : FileError), (t.writeOutputs halves directory outs).2 = .error (.file e) →
        t.SameFiles (t.writeOutputs halves directory outs).1 := by
  intro atomic
  have failed : (fileAndDirectory.writeOutputs .far [] [⟨.str "a.ts", "1"⟩, ⟨.str "dir", "2"⟩]).2 =
      .error (.file ⟨.isDirectory, "/.dir.00000000.tmp", some "dir"⟩) := by
    with_unfolding_all rfl
  have same := atomic fileAndDirectory .far [] _ _ failed ["a.ts"]
  have replaced : (fileAndDirectory.writeOutputs .far []
      [⟨.str "a.ts", "1"⟩, ⟨.str "dir", "2"⟩]).1.content? ["a.ts"] = some [49] := by
    decide +kernel
  rw [replaced] at same
  cases same

end Typewright.FileTree
