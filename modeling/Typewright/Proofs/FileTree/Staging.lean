import Typewright.Proofs.FileTree.Atomicity
import Typewright.Proofs.FileTree.Places

/-!
# What is staged

Staging every output succeeds, or stops at a file error, or stops because an output is not sound:
its path is no path at all, or its text cannot be encoded (`stageAll_eq_misuse`). When it succeeds,
all outputs are sound, and the temporary files hold their texts in order (`stageAll_eq_none`).
-/

namespace Typewright

variable {halves : Text.Halves}

theorem Path.misuse?_eq_none {path : Path} : path.misuse? halves = none ↔
    ∀ part ∈ path.parts, halves.names part = true ∧ part.toList.contains '\x00' = false := by
  rw [misuse?, holdsNull, forall₂_and, ← List.all_eq_true]
  cases path.parts.all halves.names with
  | false => simp
  | true => simp

theorem Path.misuse?_parent {path : Path} (sound : path.misuse? halves = none) :
    path.parent.misuse? halves = none :=
  misuse?_eq_none.2 fun part hp => misuse?_eq_none.1 sound part (List.dropLast_subset _ hp)

/-- Whether a value is a path: a text that a file system takes as one. -/
def Value.IsPath (halves : Text.Halves) (v : Value) : Prop :=
  ∃ text, v = .str text ∧ (Path.ofString text).misuse? halves = none

instance (v : Value) : Decidable (v.IsPath halves) :=
  decidable_of_iff (∃ text ∈ v.str?, (Path.ofString text).misuse? halves = none) <| by
    cases v <;> simp [Value.IsPath, Value.str?]

theorem Value.isPath_congr {v w : Value} (same : v.key? = w.key?) :
    v.IsPath halves ↔ w.IsPath halves := by
  constructor
  · rintro ⟨text, rfl, sound⟩
    exact ⟨text, Value.key?_eq_str_iff.1 same.symm, sound⟩
  · rintro ⟨text, rfl, sound⟩
    exact ⟨text, Value.key?_eq_str_iff.1 same, sound⟩

/-- Whether an output has a path that is one, and a text that can be encoded. -/
structure Output.Sound (halves : Text.Halves) (out : Output) : Prop where
  path : out.path.IsPath halves
  code : halves.encodes out.code = true

theorem Output.sound_iff {out : Output} :
    out.Sound halves ↔ out.path.IsPath halves ∧ halves.encodes out.code = true :=
  ⟨fun h => ⟨h.path, h.code⟩, fun ⟨path, code⟩ => ⟨path, code⟩⟩

instance (out : Output) : Decidable (out.Sound halves) := decidable_of_iff' _ Output.sound_iff

namespace FileTree

variable {t next : FileTree} {directory : Place}

/-! ## Staged outputs -/

/-- Whether a name is one that temporary files have. -/
def IsTemporaryName (name : String) : Prop := ∃ base n, name = temporaryName base n

/-- Whether an output is staged in a tree: its whole text is in the temporary file. -/
structure IsStaged (t : FileTree) (out : Output) (s : Staged) : Prop where
  given : s.given = out.path
  target : ∃ text, out.path = .str text ∧ s.target = Path.ofString text
  temporary : ∃ name, s.temporary.getLast? = some name ∧ IsTemporaryName name
  content : t.content? s.temporary = some (Text.encode out.code)

theorem stageIn_eq_ok {out : Output} {path : Path} {s : Staged}
    (h : t.stageIn halves directory out path = (next, .ok s)) :
    path.misuse? halves = none ∧ halves.encodes out.code = true ∧
      s.given = out.path ∧ s.target = path ∧
      (∃ name, s.temporary.getLast? = some name ∧ IsTemporaryName name) ∧
      next.content? s.temporary = some (Text.encode out.code) := by
  rw [stageIn] at h
  split at h
  · cases h
  next sound =>
    split at h
    · cases h
    next p _ =>
      dsimp only at h
      split at h
      · cases h
      rw [fill] at h
      split at h
      next code =>
        cases h
        have free : t.get? (t.temporaryPlace p path.name) ≠ some .directory := by
          simp [get?_temporaryPlace]
        have root := ne_root_of_get? free
        refine ⟨sound, code, rfl, rfl, ⟨_, List.getLast?_concat, _, _, rfl⟩, ?_⟩
        rw [content?_put_file root, if_pos rfl]
      · cases h

theorem stage_eq_ok {out : Output} {s : Staged} (h : t.stage halves directory out = (next, .ok s)) :
    out.Sound halves ∧ next.IsStaged out s := by
  rw [stage] at h
  split at h
  · cases h
  next text hpath =>
    have path : out.path = .str text := Value.path_eq_ok.1 hpath
    dsimp only at h
    split at h
    · cases h
    split at h
    · cases h
    next above _ =>
      obtain ⟨sound, code, given, target, temporary, content⟩ := stageIn_eq_ok h
      exact ⟨⟨⟨text, path, sound⟩, code⟩, given, ⟨text, path, target⟩, temporary, content⟩

/-- Nothing is misused while a sound output is staged. -/
theorem stage_eq_misuse {out : Output} {m : Misuse}
    (h : t.stage halves directory out = (next, .error (.misuse m))) : ¬ out.Sound halves := by
  rintro ⟨⟨text, path, sound⟩, code⟩
  rw [stage, path] at h
  simp only [Value.path, Path.misuse?_parent sound] at h
  split at h
  · cases h
  · simp only [stageIn, sound] at h
    split at h
    · cases h
    · split at h
      · cases h
      · rw [fill, if_pos code] at h
        cases h

/-- What is staged stays so when more is staged. -/
theorem IsStaged.adds {out : Output} {s : Staged} {places : List Place} (h : t.IsStaged out s)
    (adds : t.Adds next places) : next.IsStaged out s := by
  refine ⟨h.given, h.target, h.temporary, ?_⟩
  have taken : s.temporary ∉ places := by
    intro free
    cases h.content.symm.trans (adds.fresh _ free)
  rw [adds.kept _ taken, h.content]

theorem stageAll_eq_none {outs : List Output} :
    ∀ {t : FileTree} {staged : List Staged},
      t.stageAll halves directory outs = (next, staged, none) →
      (∀ out ∈ outs, out.Sound halves) ∧ List.Forall₂ next.IsStaged outs staged := by
  induction outs with
  | nil =>
      intro t staged h
      cases h
      exact ⟨by simp, .nil⟩
  | cons out outs ih =>
      intro t staged h
      obtain ⟨_, _, _, ⟨⟩⟩ | ⟨above, s, more, hstage, hrest, rfl⟩ := stageAll_cons h
      have adds := (stageAll_addsFiles hrest (by rintro _ ⟨⟩)).adds
      obtain ⟨sound, first⟩ := stage_eq_ok hstage
      obtain ⟨others, rest⟩ := ih hrest
      exact ⟨List.forall_mem_cons.2 ⟨sound, others⟩, .cons (first.adds adds) rest⟩

theorem stageAll_eq_misuse {outs : List Output} {m : Misuse} :
    ∀ {t : FileTree} {staged : List Staged},
      t.stageAll halves directory outs = (next, staged, some (.misuse m)) →
      ∃ out ∈ outs, ¬ out.Sound halves := by
  induction outs with
  | nil =>
      intro t staged h
      cases h
  | cons out outs ih =>
      intro t staged h
      obtain ⟨e, hstage, _, ⟨⟩⟩ | ⟨above, s, more, _, hrest, _⟩ := stageAll_cons h
      · exact ⟨out, List.mem_cons_self, stage_eq_misuse hstage⟩
      · obtain ⟨o, ho, unsound⟩ := ih hrest
        exact ⟨o, List.mem_cons_of_mem _ ho, unsound⟩

end FileTree

end Typewright
