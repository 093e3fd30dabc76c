import Typewright.Proofs.Command.Delivery

/-!
# Does a command withhold everything until all is staged?

A command that fails is meant to leave nothing behind. It leaves the files as they are, and prints
no code, until the configuration is loaded, all targets are resolved, the document is read, and
every target is generated. Then the outputs are staged. If an operation on files fails, what is
staged is taken away again. But two things stop the staging in another way, after which what was
staged before stays: a path that is none, being no text or one that no file system takes, and a code
that cannot be encoded.

So if a command leaves anything, all outputs were staged exactly when all their paths are paths and
all their codes can be encoded (`run_leaves`), and there are commands that leave a temporary file
without that (`run_leaves_temporary`).
-/

namespace Typewright.Command

variable {s : Surroundings} {a : Arguments} {c : Config} {good : List (Target × Generated)}

/-- Whether every output is completely staged in its temporary file. -/
def AllStaged (s : Surroundings) (outs : List Output) : Prop :=
  ∃ next staged, s.tree.stageAll s.halves s.directory outs = (next, staged, none) ∧
    List.Forall₂ next.IsStaged outs staged

/-- Whether a command leaves anything: a change to the files, or something that it prints. -/
def Leaves (s : Surroundings) (e : Effect) : Prop :=
  ¬ s.tree.SameFiles e.tree ∨ e.output ≠ ""

theorem Withheld.not_leaves {tree : FileTree} {e : Effect} (h : Withheld tree e)
    (same : s.tree.SameFiles tree) : ¬ Leaves s e := by
  rintro (changed | prints)
  · exact changed (h.tree ▸ same)
  · exact prints h.output

/-- When delivering leaves anything, only an output that is not sound can have stopped the
staging. -/
theorem allStaged_iff_of_leaves {errors : String}
    (leaves : Leaves s (deliver s a c errors good)) :
    ∃ outs, outputs c [] good = .ok outs ∧
      (AllStaged s outs ↔ ∀ out ∈ outs, out.Sound s.halves) := by
  rw [deliver] at leaves
  cases houts : outputs c [] good with
  | error m =>
      rw [houts] at leaves
      exact absurd leaves ((stopped_withheld _ _ _).not_leaves (.refl _))
  | ok outs =>
      rw [houts] at leaves
      refine ⟨outs, rfl, ?_⟩
      rw [AllStaged]
      cases hstage : s.tree.stageAll s.halves s.directory outs with
      | mk next result =>
          obtain ⟨staged, failure⟩ := result
          cases failure with
          | none =>
              obtain ⟨sound, isStaged⟩ := FileTree.stageAll_eq_none hstage
              exact iff_of_true ⟨next, staged, rfl, isStaged⟩ sound
          | some failure =>
              dsimp only at leaves
              rw [FileTree.writeOutputs, hstage] at leaves
              cases failure with
              | file e =>
                  have adds := FileTree.stageAll_addsFiles hstage (by rintro _ ⟨⟩)
                  exact absurd leaves ((stopped_withheld _ _ _).not_leaves adds.discard.sameFiles)
              | misuse m =>
                  obtain ⟨out, hout, unsound⟩ := FileTree.stageAll_eq_misuse hstage
                  refine iff_of_false ?_ fun sound => unsound (sound out hout)
                  rintro ⟨_, _, ⟨⟩, _⟩

/-- The outputs are sound if the paths of the targets are paths and the codes can be encoded. -/
theorem sound_of_outputs_iff {halves : Text.Halves} {outs : List Output}
    (h : outputs c [] good = .ok outs) :
    (∀ out ∈ outs, out.Sound halves) ↔
      (∀ p ∈ good, ∀ v, outputPath? c p.1 = some v → v.IsPath halves) ∧
        ∀ out ∈ outs, halves.encodes out.code = true := by
  rw [← isPath_of_outputs_iff h, ← forall₂_and]
  exact forall₂_congr fun _ _ => Output.sound_iff

/-- A command that changes the files, or prints generated code, has loaded the configuration,
resolved every target that is named, read the document and generated every target. It has staged
every output if and only if all paths for outputs are paths and all codes for them can be
encoded. -/
theorem run_leaves {arguments : List String}
    (leaves : ¬ s.tree.SameFiles (run s arguments).tree ∨
      Generates arguments ∧ (run s arguments).output ≠ "") :
    ∃ a c d good outs, parse arguments = .ok a ∧ Prepared s a c d good ∧
      (∀ name ∈ a.targets, ∃ p ∈ good, Registry.standard.target (targetName name) = .ok p.1) ∧
      outputs c [] good = .ok outs ∧
      (AllStaged s outs ↔
        (∀ p ∈ good, ∀ v, outputPath? c p.1 = some v → v.IsPath s.halves) ∧
          ∀ out ∈ outs, s.halves.encodes out.code = true) := by
  cases run_cases s arguments with
  | inr withheld =>
      cases leaves with
      | inl changed =>
          rw [withheld.1] at changed
          exact absurd (FileTree.SameFiles.refl _) changed
      | inr prints => exact absurd (withheld.2 prints.1).output prints.2
  | inl delivers =>
      obtain ⟨a, c, d, good, errors, parsed, prepared, same⟩ := delivers
      rw [same] at leaves
      obtain ⟨outs, houts, staged⟩ := allStaged_iff_of_leaves (leaves.imp_right And.right)
      exact ⟨a, c, d, good, outs, parsed, prepared, prepared.resolved, houts,
        staged.trans (sound_of_outputs_iff houts)⟩

/-- The declarations are written to a file, so everything before has succeeded. -/
theorem run_leaves_declarations :
    ¬ noModels.tree.SameFiles (run noModels ["--stdin", "-o", "x.ts"]).tree ∧
      ∃ a c d good outs, parse ["--stdin", "-o", "x.ts"] = .ok a ∧ Prepared noModels a c d good ∧
        (∀ name ∈ a.targets, ∃ p ∈ good,
          Registry.standard.target (targetName name) = .ok p.1) ∧
        outputs c [] good = .ok outs ∧
        (AllStaged noModels outs ↔
          (∀ p ∈ good, ∀ v, outputPath? c p.1 = some v → v.IsPath noModels.halves) ∧
            ∀ out ∈ outs, noModels.halves.encodes out.code = true) := by
  have written : ((run noModels ["--stdin", "-o", "x.ts"]).tree.content? ["x.ts"]).isSome = true :=
    by decide +kernel
  have changed : ¬ noModels.tree.SameFiles (run noModels ["--stdin", "-o", "x.ts"]).tree := by
    intro same
    rw [same ["x.ts"]] at written
    cases written
  exact ⟨changed, run_leaves (.inl changed)⟩

/-- A configuration file gives a second output a path with the null character. -/
def nullInConfig : Surroundings :=
  { noModels with
    tree := FileTree.empty.put ["c.json"]
      (.file (Text.encode "\x7b\"zodOutput\": \"b\\u0000.ts\"\x7d")) }

/-- The first output is staged, and the path of the second is none. The temporary file stays. -/
theorem run_leaves_temporary :
    ¬ ∀ (s : Surroundings) (arguments : List String) (a : Arguments) (c : Config) (d : Datamodel)
      (good : List (Target × Generated)) (outs : List Output), parse arguments = .ok a →
      Prepared s a c d good → outputs c [] good = .ok outs →
      ¬ s.tree.SameFiles (run s arguments).tree → AllStaged s outs := by
  intro staged
  have evaluated : (prepare? nullInConfig ["--stdin", "-c", "c.json", "-o", "a.ts"]).map
      (fun (_, c, _, good) =>
        ((outputs c [] good).isOk, good.map fun p => pathKey? c p.1)) =
      some (true, [some (.str "a.ts"), some (.str "b\x00.ts")]) := by
    decide +kernel
  obtain ⟨⟨a, c, d, good⟩, prepared, facts⟩ := Option.map_eq_some_iff.1 evaluated
  obtain ⟨parsed, prepared⟩ := prepare?_eq_some prepared
  obtain ⟨isOk, paths⟩ := Prod.mk.inj facts
  obtain ⟨p, rest, rfl, _, paths⟩ := List.map_eq_cons_iff.1 paths
  obtain ⟨p', rest, rfl, path, _⟩ := List.map_eq_cons_iff.1 paths
  have left : ((run nullInConfig ["--stdin", "-c", "c.json", "-o", "a.ts"]).tree.content?
      [".a.ts.00000000.tmp"]).isSome = true := by
    decide +kernel
  have changed : ¬ nullInConfig.tree.SameFiles
      (run nullInConfig ["--stdin", "-c", "c.json", "-o", "a.ts"]).tree := by
    intro same
    rw [same [".a.ts.00000000.tmp"]] at left
    revert left
    decide +kernel
  cases houts : outputs c [] (p :: p' :: rest) with
  | error m =>
      rw [houts] at isOk
      cases isOk
  | ok outs =>
      obtain ⟨_, _, hstage, _⟩ := staged nullInConfig _ a c d _ outs parsed prepared houts changed
      have sound := (sound_of_outputs_iff houts).1 (FileTree.stageAll_eq_none hstage).1
      exact absurd (sound.1 p' (by simp) _ (pathKey?_eq_str.1 path)) (by decide +kernel)

/-- A name is half of a pair. The code cannot be encoded, and its temporary file stays, with nothing
in it. -/
example :
    let s := onInput "\x7b\"models\": [\x7b\"name\": \"\\ud800\", \"fields\": []\x7d]\x7d"
    let e := run s ["--stdin", "-o", "a.ts"]
    e.ending = .crash (.misuse .unencodable) ∧
      e.tree.content? [".a.ts.00000000.tmp"] = some [] := by
  decide +kernel

end Typewright.Command
