import Typewright.Proofs.FileTree.Moving

/-!
# What writing outputs leaves

When outputs are written, the text that is read at the path of an output is that of the last output
that goes to the same place (`read_of_writeOutputs`). Two outputs with different paths can go to one
place. Then only one of them is left.

What writing outputs does to a tree altogether has three outcomes (`WriteOutcome`). All outputs are
written; or one cannot be staged, and nothing but directories is new; or one cannot be moved, and it
is left in its temporary file together with those after it. The statements are about everything in
the tree: at the places that outputs are meant for there is the last of them, in temporary files
there are the outputs that are left, and everywhere else there is what was there, or a new directory.
-/

namespace Typewright

namespace FileTree

variable {t next last : FileTree} {halves : Text.Halves} {directory : Place}

/-! ## Written outputs -/

/-- Whether two paths lead to one place. -/
def SharePlace (t : FileTree) (directory : Place) (path path' : String) : Prop :=
  ∃ q, t.locate directory (Path.ofString path) = .ok q ∧
    t.locate directory (Path.ofString path') = .ok q

theorem writeOutputs_eq_ok {outs : List Output} {written : List (Value × Path)}
    (h : t.writeOutputs halves directory outs = (last, .ok written)) :
    ∃ next staged, t.stageAll halves directory outs = (next, staged, none) ∧
      next.moveAll directory staged = (last, none) ∧
      written = staged.map fun s => (s.given, s.target) := by
  rw [writeOutputs] at h
  split at h
  · cases h
  · cases h
  next next staged hstage =>
    split at h
    · cases h
    next last hmove =>
      cases h
      exact ⟨next, staged, hstage, hmove, rfl⟩

theorem paths_of_writeOutputs {outs : List Output} {written : List (Value × Path)}
    (h : t.writeOutputs halves directory outs = (last, .ok written)) :
    ∀ out ∈ outs, out.Sound halves ∧ ∃ e ∈ written, e.1 = out.path := by
  obtain ⟨next, staged, hstage, _, rfl⟩ := writeOutputs_eq_ok h
  obtain ⟨sound, isStaged⟩ := stageAll_eq_none hstage
  intro out hout
  obtain ⟨s, hs, given, _⟩ := exists_right_of_forall₂ isStaged out hout
  exact ⟨sound out hout, _, List.mem_map_of_mem hs, given⟩

/-- No output is meant for the place of a temporary file if none is named like one. -/
theorem unclaimed_of_names {outs : List Output} {staged : List Staged}
    (hstage : t.stageAll halves directory outs = (next, staged, none))
    (hmove : next.moveAll directory staged = (last, none))
    (names : ∀ out ∈ outs, ∀ text, out.path = .str text →
      ¬ IsTemporaryName (Path.ofString text).name) : t.Unclaimed halves directory outs := by
  obtain ⟨_, isStaged⟩ := stageAll_eq_none hstage
  rw [Unclaimed, hstage]
  intro out hout p hp meant
  obtain ⟨text, path, located⟩ := place?_eq_some.1 meant
  obtain ⟨s, hs, _, ⟨_, same, target⟩, _⟩ := exists_right_of_forall₂ isStaged out hout
  cases path.symm.trans same
  -- What is moved has a name, and the temporary file would have the same one.
  obtain ⟨named, down⟩ := names_of_moveAll hmove s hs
  rw [target] at named down
  obtain ⟨s', hs', rfl⟩ := List.mem_map.1 hp
  obtain ⟨_, _, _, _, ⟨name, hname, temporary⟩, _⟩ := exists_left_of_forall₂ isStaged s' hs'
  rw [getLast?_of_locate located named down, Option.some_inj] at hname
  exact names out hout text path (hname ▸ temporary)

/-- At the path of an output the text of an output is read that goes to the same place. -/
theorem read_of_writeOutputs {outs : List Output} {written : List (Value × Path)}
    (h : t.writeOutputs halves directory outs = (last, .ok written))
    (names : ∀ out ∈ outs, ∀ text, out.path = .str text →
      ¬ IsTemporaryName (Path.ofString text).name)
    {out : Output} (hout : out ∈ outs) {text : String} (path : out.path = .str text) :
    ∃ out' ∈ outs, ∃ text', out'.path = .str text' ∧ last.SharePlace directory text text' ∧
      last.read directory (Path.ofString text) = .ok (Text.encode out'.code) := by
  obtain ⟨next, staged, hstage, hmove, rfl⟩ := writeOutputs_eq_ok h
  have unclaimed := unclaimed_of_names hstage hmove names
  obtain ⟨_, moved, all⟩ | ⟨_, _, _, _, _, _, _, _, moved, _⟩ :=
    (moving_of_stageAll hstage unclaimed).run
  · cases hmove.symm.trans moved
    rw [List.nil_append] at all
    have keeps := all.keepsDirectories_above
    obtain ⟨p, meant, _⟩ := all.placed out hout
    obtain ⟨out', hlast⟩ := exists_lastFor? hout meant
    obtain ⟨hout', meant'⟩ := lastFor?_eq_some hlast
    obtain ⟨_, same, located⟩ := place?_eq_some.1 meant
    cases path.symm.trans same
    obtain ⟨text', path', located'⟩ := place?_eq_some.1 meant'
    refine ⟨out', hout', text', path', ⟨p, keeps.locate located, keeps.locate located'⟩,
      read_eq_ok.2 ⟨p, keeps.locate located, ?_⟩⟩
    rw [content?, all.nodes p List.not_mem_nil, nodeAfter, hlast]
  · cases hmove.symm.trans moved

/-! ## Outcomes -/

/-- What becomes of a tree when outputs are written, and how that ends. In between stands a tree
that has some directories more than the first one. -/
inductive WriteOutcome (t : FileTree) (halves : Text.Halves) (directory : Place)
    (outs : List Output) : FileTree → Except WriteFailure (List (Value × Path)) → Prop where
  /-- Each output has a place to go to, which is no directory. At each of these places there is the
  last output that is meant for it, and nothing else is new but the directories. -/
  | written {above last : FileTree} {paths : List (Value × Path)} (added : t.AddsDirectories above)
      (placed : ∀ out ∈ outs, ∃ p, above.place? directory out = some p ∧
        above.get? p ≠ some .directory)
      (nodes : ∀ p, last.get? p = above.nodeAfter directory outs p) :
      WriteOutcome t halves directory outs last (.ok paths)
  /-- An output cannot be staged. Nothing is new but directories. -/
  | notStaged {last : FileTree} {e : FileError}
      (failed : (t.stageAll halves directory outs).2.2 = some (.file e))
      (added : t.AddsDirectories last) :
      WriteOutcome t halves directory outs last (.error (.file e))
  /-- An output cannot be moved. Those before it are written. It is left in a temporary file, as are
  those after it, at places where nothing was. Nothing else is new but the directories. -/
  | notMoved {above last : FileTree} {before after : List Output} {out : Output} {s : Staged}
      {others : List Staged} {e : FileError} (whole : outs = before ++ out :: after)
      (failed : last.move directory s = .error e) (added : t.AddsDirectories above)
      (placed : ∀ out ∈ before, ∃ p, above.place? directory out = some p ∧
        above.get? p ≠ some .directory)
      (left : List.Forall₂ last.IsStaged (out :: after) (s :: others))
      (nodup : (temporaries (s :: others)).Nodup)
      (fresh : ∀ p ∈ temporaries (s :: others), above.get? p = none)
      (nodes : ∀ p, p ∉ temporaries (s :: others) →
        last.get? p = above.nodeAfter directory before p) :
      WriteOutcome t halves directory outs last (.error (.file e))

/-- Writing outputs that are sound has one of the three outcomes. When an output is not sound, it is
no operation on files that fails. -/
theorem writeOutputs_outcome {outs : List Output} (sound : ∀ out ∈ outs, out.Sound halves)
    (unclaimed : t.Unclaimed halves directory outs) :
    t.WriteOutcome halves directory outs (t.writeOutputs halves directory outs).1
      (t.writeOutputs halves directory outs).2 := by
  rw [writeOutputs]
  cases hstage : t.stageAll halves directory outs with
  | mk next result =>
      obtain ⟨staged, failure⟩ := result
      cases failure with
      | some failure =>
          cases failure with
          | file e =>
              have adds := stageAll_addsFiles hstage (by rintro _ ⟨⟩)
              exact .notStaged (by rw [hstage]) adds.discard
          | misuse m =>
              obtain ⟨out, hout, unsound⟩ := stageAll_eq_misuse hstage
              exact absurd (sound out hout) unsound
      | none =>
          have adds := stageAll_addsFiles hstage (by rintro _ ⟨⟩)
          obtain ⟨last, moved, all⟩ | ⟨before, out, after, last, s, others, e, whole, moved, failed,
            left⟩ := (moving_of_stageAll hstage unclaimed).run
          · dsimp only
            rw [moved]
            exact .written adds.discard all.placed fun p => all.nodes p List.not_mem_nil
          · dsimp only
            rw [moved]
            exact .notMoved whole failed adds.discard left.placed left.staged left.nodup left.fresh
              left.nodes

/-- Two outputs for one file, one for a directory, and one in a new directory. -/
def fourOutputs : List Output :=
  [⟨.str "a.ts", "1"⟩, ⟨.str "./a.ts", "2"⟩, ⟨.str "dir", "3"⟩, ⟨.str "new/b.ts", "4"⟩]

/-- The third of the outputs cannot be moved. Then the file holds the second one, and the last two
are in temporary files. -/
theorem outcome_of_fourOutputs :
    (∀ out ∈ fourOutputs, out.Sound .far) ∧ fileAndDirectory.Unclaimed .far [] fourOutputs ∧
      (fileAndDirectory.writeOutputs .far [] fourOutputs).1.content? ["a.ts"] = some [50] ∧
      temporaries ((fileAndDirectory.stageAll .far [] fourOutputs).2.1.drop 2) =
        [[".dir.00000000.tmp"], ["new", ".b.ts.00000000.tmp"]] ∧
      fileAndDirectory.WriteOutcome .far [] fourOutputs
        (fileAndDirectory.writeOutputs .far [] fourOutputs).1
        (.error (.file ⟨.isDirectory, "/.dir.00000000.tmp", some "dir"⟩)) := by
  have sound : ∀ out ∈ fourOutputs, out.Sound .far := by decide +kernel
  have unclaimed : fileAndDirectory.Unclaimed .far [] fourOutputs := by
    rw [Unclaimed]
    decide +kernel
  have failed : (fileAndDirectory.writeOutputs .far [] fourOutputs).2 =
      .error (.file ⟨.isDirectory, "/.dir.00000000.tmp", some "dir"⟩) := by
    with_unfolding_all rfl
  refine ⟨sound, unclaimed, by decide +kernel, by decide +kernel, ?_⟩
  rw [← failed]
  exact writeOutputs_outcome sound unclaimed

end FileTree

end Typewright
