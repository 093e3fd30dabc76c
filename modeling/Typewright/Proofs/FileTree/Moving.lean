import Typewright.Proofs.FileTree.Staging

/-!
# Moving staged files

Moving staged files in turn leaves at each place the text of the last output that is meant for it
(`nodeAfter`), so long as no output is meant for the place of a temporary file (`Unclaimed`).

`Moving` is what holds in between, seen against the tree without temporary files (`above`): some
outputs are done, and the others are left in their temporary files. `Moving.step` moves one file,
and `Moving.run` all of them or those before the first that fails. When all outputs are staged,
nothing is done yet (`moving_of_stageAll`).
-/

namespace Typewright.FileTree

variable {t next last above now : FileTree} {halves : Text.Halves} {directory p : Place}

/-! ## The places of outputs -/

/-- The place that an output is meant for. -/
def place? (t : FileTree) (directory : Place) (out : Output) : Option Place :=
  match out.path with
  | .str text => (t.locate directory (Path.ofString text)).toOption
  | _ => none

theorem place?_eq_some {out : Output} :
    t.place? directory out = some p ↔
      ∃ text, out.path = .str text ∧ t.locate directory (Path.ofString text) = .ok p := by
  rw [place?]
  cases out.path with
  | str text =>
      cases h : t.locate directory (Path.ofString text) with
      | ok q => simp [Except.toOption, h]
      | error e => simp [Except.toOption, h]
  | _ => simp

theorem KeepsDirectories.place? (h : t.KeepsDirectories next) {out : Output}
    (hp : t.place? directory out = some p) : next.place? directory out = some p := by
  obtain ⟨text, path, hp⟩ := place?_eq_some.1 hp
  exact place?_eq_some.2 ⟨text, path, h.locate hp⟩

/-- The last of outputs that is meant for a place. -/
def lastFor? (t : FileTree) (directory : Place) (outs : List Output) (p : Place) : Option Output :=
  outs.reverse.find? fun out => t.place? directory out == some p

theorem lastFor?_eq_some {outs : List Output} {out : Output}
    (h : t.lastFor? directory outs p = some out) :
    out ∈ outs ∧ t.place? directory out = some p := by
  refine ⟨List.mem_reverse.1 (List.mem_of_find?_eq_some h), ?_⟩
  simpa using List.find?_some h

theorem exists_lastFor? {outs : List Output} {out : Output} (hout : out ∈ outs)
    (hp : t.place? directory out = some p) : ∃ last, t.lastFor? directory outs p = some last := by
  rw [← Option.isSome_iff_exists, lastFor?, List.find?_isSome]
  exact ⟨out, List.mem_reverse.2 hout, by simp [hp]⟩

/-- What is at a place of a tree after outputs were written into it. -/
def nodeAfter (t : FileTree) (directory : Place) (outs : List Output) (p : Place) : Option Node :=
  match t.lastFor? directory outs p with
  | some out => some (.file (Text.encode out.code))
  | none => t.get? p

/-- One more output goes to its place, and changes nothing else. -/
theorem nodeAfter_concat {outs : List Output} {out : Output} {q : Place}
    (hq : t.place? directory out = some q) (p : Place) :
    t.nodeAfter directory (outs ++ [out]) p =
      if p = q then some (.file (Text.encode out.code)) else t.nodeAfter directory outs p := by
  rw [nodeAfter, lastFor?, List.reverse_append, List.reverse_singleton, List.singleton_append]
  by_cases here : p = q
  · rw [if_pos here, List.find?_cons_of_pos (by simp [hq, here])]
  · rw [if_neg here, List.find?_cons_of_neg (by simpa [hq] using Ne.symm here)]
    rfl

theorem nodeAfter_of_not_meant {outs : List Output}
    (h : ∀ out ∈ outs, t.place? directory out ≠ some p) :
    t.nodeAfter directory outs p = t.get? p := by
  have none_for : t.lastFor? directory outs p = none := by
    rw [lastFor?, List.find?_eq_none]
    intro out hout
    simpa using h out (List.mem_reverse.1 hout)
  rw [nodeAfter, none_for]

/-- Writing outputs makes no directories. -/
theorem get?_of_nodeAfter_eq_directory {outs : List Output}
    (h : t.nodeAfter directory outs p = some .directory) : t.get? p = some .directory := by
  rw [nodeAfter] at h
  split at h
  · cases h
  · exact h

/-! ## Moving staged files -/

/-- Staged files are being moved: of a tree without temporary files, some outputs are written, and
the others are left in temporary files. -/
structure Moving (above : FileTree) (directory : Place) (done rest : List Output)
    (now : FileTree) (left : List Staged) : Prop where
  /-- The outputs that are left are in temporary files. -/
  staged : List.Forall₂ now.IsStaged rest left
  nodup : (temporaries left).Nodup
  /-- The temporary files are at places where nothing else is. -/
  fresh : ∀ p ∈ temporaries left, above.get? p = none
  /-- No output is meant for the place of a temporary file. -/
  unclaimed : ∀ out ∈ done ++ rest, ∀ p ∈ temporaries left, above.place? directory out ≠ some p
  /-- The outputs that are done had places to go to, where no directories were. -/
  placed : ∀ out ∈ done, ∃ p, above.place? directory out = some p ∧
    above.get? p ≠ some .directory
  /-- Elsewhere the outputs that are done are written. -/
  nodes : ∀ p, p ∉ temporaries left → now.get? p = above.nodeAfter directory done p

namespace Moving

variable {done rest : List Output} {out : Output} {s : Staged} {left : List Staged}

/-- No directory is new. -/
theorem keepsDirectories (h : Moving above directory done rest now left) :
    now.KeepsDirectories above := by
  intro p hp
  by_cases temporary : p ∈ temporaries left
  · obtain ⟨s, hs, rfl⟩ := List.mem_map.1 temporary
    obtain ⟨_, _, isStaged⟩ := exists_left_of_forall₂ h.staged s hs
    have content := isStaged.content
    rw [content?, hp] at content
    cases content
  · exact get?_of_nodeAfter_eq_directory ((h.nodes p temporary).symm.trans hp)

/-- No directory is gone. -/
theorem keepsDirectories_above (h : Moving above directory done rest now left) :
    above.KeepsDirectories now := by
  intro p hp
  have elsewhere : p ∉ temporaries left := by
    intro temporary
    cases (h.fresh p temporary).symm.trans hp
  rw [h.nodes p elsewhere, nodeAfter_of_not_meant, hp]
  intro out hout meant
  obtain ⟨q, hq, notDirectory⟩ := h.placed out hout
  cases meant.symm.trans hq
  exact notDirectory hp

/-- One file that is moved is one more output that is done. -/
theorem step (h : Moving above directory done (out :: rest) now (s :: left))
    (hmove : now.move directory s = .ok next) :
    Moving above directory (done ++ [out]) rest next left := by
  obtain ⟨_, q, content, hq, notDirectory, hs, nodes⟩ := get?_of_move hmove
  cases h.staged with
  | cons first others =>
  have hmem : s.temporary ∈ temporaries (s :: left) := List.mem_cons_self
  obtain ⟨notMem, nodup⟩ := List.nodup_cons.1 h.nodup
  -- The file goes to the place that the output is meant for.
  have meant : above.place? directory out = some q := by
    obtain ⟨text, path, target⟩ := first.target
    rw [target] at hq
    exact h.keepsDirectories.place? (place?_eq_some.2 ⟨text, path, hq⟩)
  have hcontent : content = Text.encode out.code := by
    have stagedContent := first.content
    rw [content?, hs] at stagedContent
    exact Option.some.inj stagedContent
  have mem : out ∈ done ++ out :: rest := by simp
  have target : ∀ p ∈ temporaries (s :: left), p ≠ q := by
    rintro p hp rfl
    exact h.unclaimed out mem p hp meant
  have each (o : Output) (ho : o ∈ done ++ [out] ++ rest) : o ∈ done ++ out :: rest := by
    simpa using ho
  refine ⟨?_, nodup, fun p hp => h.fresh p (List.mem_cons_of_mem _ hp), ?_, ?_, ?_⟩
  · have each := List.forall₂_and_left (p := (· ∈ left)) _ _ |>.2
      ⟨fun _ hs => hs, List.Forall₂.flip (R := flip now.IsStaged) others⟩
    refine List.Forall₂.flip (each.imp fun s' o both => ?_)
    obtain ⟨hs', isStaged⟩ := both
    have hp : s'.temporary ∈ temporaries left := List.mem_map_of_mem hs'
    have other : s'.temporary ≠ s.temporary := ne_of_mem_of_not_mem hp notMem
    refine ⟨isStaged.given, isStaged.target, isStaged.temporary, ?_⟩
    rw [content?, nodes, if_neg (target _ (List.mem_cons_of_mem _ hp)), if_neg other]
    exact isStaged.content
  · intro o ho p hp
    exact h.unclaimed o (each o ho) p (List.mem_cons_of_mem _ hp)
  · intro o ho
    obtain ho | ho := List.mem_append.1 ho
    · exact h.placed o ho
    · rw [List.mem_singleton.1 ho]
      exact ⟨q, meant, fun hq => notDirectory (h.keepsDirectories_above q hq)⟩
  · intro p hp
    rw [nodes, nodeAfter_concat meant, hcontent]
    by_cases here : p = q
    · rw [if_pos here, if_pos here]
    · rw [if_neg here, if_neg here]
      by_cases temporary : p = s.temporary
      · rw [if_pos temporary, temporary, nodeAfter_of_not_meant, h.fresh _ hmem]
        exact fun o ho => h.unclaimed o (List.mem_append_left _ ho) _ hmem
      · rw [if_neg temporary]
        exact h.nodes p fun mem => (List.mem_cons.1 mem).elim temporary hp

/-- Moving goes on to the end, or up to a file that cannot be moved. -/
theorem run : ∀ {left : List Staged} {rest done : List Output} {now : FileTree},
    Moving above directory done rest now left →
    (∃ last, now.moveAll directory left = (last, none) ∧
      Moving above directory (done ++ rest) [] last []) ∨
    ∃ before out after last s others e, rest = before ++ out :: after ∧
      now.moveAll directory left = (last, some e) ∧ last.move directory s = .error e ∧
      Moving above directory (done ++ before) (out :: after) last (s :: others) := by
  intro left
  induction left with
  | nil =>
      intro rest done now h
      cases h.staged
      exact .inl ⟨now, rfl, by rwa [List.append_nil]⟩
  | cons s left ih =>
      intro rest done now h
      cases rest with
      | nil => cases h.staged
      | cons out rest =>
          rw [moveAll]
          cases hmove : now.move directory s with
          | error e =>
              exact .inr ⟨[], out, rest, now, s, left, e, rfl, rfl, hmove, by rwa [List.append_nil]⟩
          | ok next =>
              obtain ⟨last, moved, all⟩ | ⟨before, o, after, last, s', others, e, whole, moved,
                failed, some_left⟩ := ih (h.step hmove)
              · rw [List.append_assoc] at all
                exact .inl ⟨last, moved, all⟩
              · rw [List.append_assoc] at some_left
                exact .inr ⟨out :: before, o, after, last, s', others, e,
                  congrArg (List.cons out) whole, moved, failed, some_left⟩

end Moving

theorem names_of_moveAll {staged : List Staged} :
    ∀ {t : FileTree}, t.moveAll directory staged = (last, none) →
      ∀ s ∈ staged, s.target.name ≠ "" ∧ s.target.name ≠ Path.up := by
  induction staged with
  | nil => simp
  | cons s rest ih =>
      intro t h
      rw [moveAll] at h
      split at h
      · cases h
      next hmove => exact List.forall_mem_cons.2 ⟨(get?_of_move hmove).1, ih h⟩

/-! ## From staging to moving -/

/-- No output is meant for the place of a temporary file. -/
def Unclaimed (t : FileTree) (halves : Text.Halves) (directory : Place) (outs : List Output) :
    Prop :=
  ∀ out ∈ outs, ∀ p ∈ temporaries (t.stageAll halves directory outs).2.1,
    (t.stageAll halves directory outs).1.place? directory out ≠ some p

/-- Without its temporary files a tree has the directories that it has with them. -/
theorem keepsDirectories_of_discard {staged : List Staged}
    (roots : ∀ p ∈ temporaries staged, p ≠ []) : (t.discard staged).KeepsDirectories t := by
  intro p hp
  rw [get?_discard roots] at hp
  split at hp
  · cases hp
  · exact hp

/-- When all outputs are staged, moving starts with nothing done. -/
theorem moving_of_stageAll {outs : List Output} {staged : List Staged}
    (h : t.stageAll halves directory outs = (next, staged, none))
    (unclaimed : t.Unclaimed halves directory outs) :
    Moving (next.discard staged) directory [] outs next staged := by
  have adds := stageAll_addsFiles h (by rintro _ ⟨⟩)
  rw [Unclaimed, h] at unclaimed
  refine ⟨(stageAll_eq_none h).2, adds.nodup, fun p hp => ?_, fun out hout p hp meant => ?_,
    by simp, fun p hp => ?_⟩
  · rw [get?_discard adds.roots, if_pos hp]
  · exact unclaimed out hout p hp ((keepsDirectories_of_discard adds.roots).place? meant)
  · rw [nodeAfter_of_not_meant (by simp), get?_discard adds.roots, if_neg hp]

end Typewright.FileTree
