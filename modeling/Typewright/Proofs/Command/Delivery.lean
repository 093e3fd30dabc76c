import Typewright.Proofs.Command.Preparation
import Typewright.Proofs.FileTree.Delivery
import Typewright.Proofs.NameMap
import Typewright.Proofs.Text.Utf8

/-!
# Is everything delivered?

A command that ends with the exit code 0 has generated every target. The codes go through two tables
on their way: the paths by target, and the codes by path. Every code without a file is printed, in
order. But in the second table a later code takes the place of an earlier one under the same path,
and two paths that are spelled differently can lead to one place, where the later file takes the
place of the earlier one.

So the files hold the codes of their targets exactly when targets with different codes have
different places (`run_delivered_iff`). No command is refused for want of that (`run_overwrites`).
The parts are what the outputs are (`mem_of_outputs`, `exists_mem_of_outputs`), what is printed
(`reports_output`), and what the files hold after they are written
(`FileTree.read_of_writeOutputs`).
-/

namespace Typewright.Command

variable {s : Surroundings} {a : Arguments} {c : Config} {good : List (Target × Generated)}

/-! ## Outputs by path -/

/-- The key of the path of a target. -/
def pathKey? (c : Config) (t : Target) : Option Key := (outputPath? c t).bind Value.key?

theorem pathKey?_eq_str {t : Target} {text : String} :
    pathKey? c t = some (.str text) ↔ outputPath? c t = some (.str text) := by
  rw [pathKey?, Option.bind_eq_some_iff]
  constructor
  · rintro ⟨v, hv, key⟩
    rw [hv, Value.key?_eq_str_iff.1 key]
  · intro h
    exact ⟨_, h, rfl⟩

theorem mem_addOutput {outs : List Output} {new out : Output} (h : out ∈ addOutput outs new) :
    out ∈ outs ∨ out.path.key? = new.path.key? ∧ out.code = new.code := by
  induction outs with
  | nil => exact .inr (by rw [List.mem_singleton.1 h]; exact ⟨rfl, rfl⟩)
  | cons o rest ih =>
      rw [addOutput] at h
      split at h
      next known =>
        cases List.mem_cons.1 h with
        | inl here => exact .inr (by rw [here]; exact ⟨known, rfl⟩)
        | inr later => exact .inl (List.mem_cons_of_mem _ later)
      next =>
        cases List.mem_cons.1 h with
        | inl here => exact .inl (here ▸ List.mem_cons_self)
        | inr later => exact (ih later).imp_left (List.mem_cons_of_mem _)

theorem exists_mem_addOutput_self (outs : List Output) (new : Output) :
    ∃ out ∈ addOutput outs new, out.path.key? = new.path.key? := by
  induction outs with
  | nil => exact ⟨new, List.mem_cons_self, rfl⟩
  | cons first rest ih =>
      rw [addOutput]
      split
      next known => exact ⟨_, List.mem_cons_self, known⟩
      next =>
        obtain ⟨out, hout, key⟩ := ih
        exact ⟨out, List.mem_cons_of_mem _ hout, key⟩

theorem exists_mem_addOutput {outs : List Output} {o : Output} (ho : o ∈ outs) (new : Output) :
    ∃ out ∈ addOutput outs new, out.path.key? = o.path.key? := by
  induction outs with
  | nil => cases ho
  | cons first rest ih =>
      rw [addOutput]
      split
      next known =>
        cases List.mem_cons.1 ho with
        | inl here => exact ⟨_, List.mem_cons_self, here ▸ rfl⟩
        | inr later => exact ⟨o, List.mem_cons_of_mem _ later, rfl⟩
      next =>
        cases List.mem_cons.1 ho with
        | inl here => exact ⟨first, List.mem_cons_self, here ▸ rfl⟩
        | inr later =>
            obtain ⟨out, hout, key⟩ := ih later
            exact ⟨out, List.mem_cons_of_mem _ hout, key⟩

/-- Whether an output has the path and the code of a target. -/
def IsOutputOf (c : Config) (p : Target × Generated) (out : Output) : Prop :=
  out.code = p.2.code ∧ ∃ v, outputPath? c p.1 = some v ∧ v.key? = out.path.key?

theorem mem_of_outputs {outs : List Output} :
    ∀ {done : List Output}, outputs c done good = .ok outs →
      ∀ out ∈ outs, out ∈ done ∨ ∃ p ∈ good, IsOutputOf c p out := by
  induction good with
  | nil =>
      intro done h out hout
      cases h
      exact .inl hout
  | cons p rest ih =>
      intro done h out hout
      obtain ⟨t, g⟩ := p
      rw [outputs] at h
      have later : (∃ p ∈ rest, IsOutputOf c p out) → ∃ p ∈ (t, g) :: rest, IsOutputOf c p out :=
        fun ⟨p, hp, isOf⟩ => ⟨p, List.mem_cons_of_mem _ hp, isOf⟩
      split at h
      · exact (ih h out hout).imp_right later
      next path hpath =>
        split at h
        · cases ih h out hout with
          | inr found => exact .inr (later found)
          | inl added =>
              refine (mem_addOutput added).imp_right fun ⟨key, code⟩ => ?_
              exact ⟨(t, g), List.mem_cons_self, code, path, hpath, key.symm⟩
        · cases h

theorem exists_mem_of_outputs {outs : List Output} :
    ∀ {done : List Output}, outputs c done good = .ok outs →
      (∀ o ∈ done, ∃ out ∈ outs, out.path.key? = o.path.key?) ∧
      ∀ p ∈ good, ∀ v, outputPath? c p.1 = some v → ∃ out ∈ outs, out.path.key? = v.key? := by
  induction good with
  | nil =>
      intro done h
      cases h
      exact ⟨fun o ho => ⟨o, ho, rfl⟩, by simp⟩
  | cons p rest ih =>
      intro done h
      obtain ⟨t, g⟩ := p
      rw [outputs] at h
      split at h
      next none =>
        obtain ⟨kept, others⟩ := ih h
        refine ⟨kept, List.forall_mem_cons.2 ⟨fun v hv => ?_, others⟩⟩
        cases none.symm.trans hv
      next path hpath =>
        split at h
        · obtain ⟨kept, others⟩ := ih h
          refine ⟨fun o ho => ?_, List.forall_mem_cons.2 ⟨fun v hv => ?_, others⟩⟩
          · obtain ⟨o', ho', key⟩ := exists_mem_addOutput ho ⟨path, g.code⟩
            obtain ⟨out, hout, key'⟩ := kept o' ho'
            exact ⟨out, hout, key'.trans key⟩
          · cases hpath.symm.trans hv
            obtain ⟨o', ho', key⟩ := exists_mem_addOutput_self done ⟨path, g.code⟩
            obtain ⟨out, hout, key'⟩ := kept o' ho'
            exact ⟨out, hout, key'.trans key⟩
        · cases h

/-- The outputs have the paths of the targets. -/
theorem isPath_of_outputs_iff {halves : Text.Halves} {outs : List Output}
    (h : outputs c [] good = .ok outs) :
    (∀ out ∈ outs, out.path.IsPath halves) ↔
      ∀ p ∈ good, ∀ v, outputPath? c p.1 = some v → v.IsPath halves := by
  constructor
  · intro paths p hp v hv
    obtain ⟨out, hout, key⟩ := (exists_mem_of_outputs h).2 p hp v hv
    exact (Value.isPath_congr key).1 (paths out hout)
  · intro paths out hout
    obtain ⟨p, hp, _, v, hv, key⟩ := (mem_of_outputs h out hout).resolve_left List.not_mem_nil
    exact (Value.isPath_congr key).1 (paths p hp v hv)

/-! ## What is printed -/

/-- The codes of the targets without files. -/
def printed (c : Config) (good : List (Target × Generated)) : List String :=
  (good.filter fun p => (outputPath? c p.1).isNone).map fun p => p.2.code

theorem pathOf?_isSome {written : List (Value × Path)} {v : Value} :
    (pathOf? written v).isSome = true ↔ ∃ e ∈ written, e.1.key? = v.key? := by
  simp [pathOf?]

/-- A report that is followed by another is not cut short if and only if neither is. Then the
outputs follow each other. -/
theorem Report.crash?_followedBy {r next : Report} : (r.followedBy next).crash? = none ↔
    r.crash? = none ∧ next.crash? = none := by
  rw [followedBy]
  cases crash : r.crash? with
  | some c => simp [crash]
  | none => simp

theorem Report.output_followedBy {r : Report} (whole : r.crash? = none) (next : Report) :
    (r.followedBy next).output = r.output ++ next.output := by
  rw [followedBy, whole]

theorem reportCode_output {written : Option Path} {t : Target} {g : Generated}
    (whole : (reportCode s written t g).crash? = none) :
    (reportCode s written t g).output = if written.isNone then g.code else "" := by
  cases written with
  | some path =>
      rw [reportCode]
      split
      · rfl
      · rfl
  | none =>
      rw [reportCode] at whole ⊢
      split
      · rfl
      next unencodable =>
        rw [if_neg unencodable] at whole
        cases whole

theorem report_output {verbose : Bool} {written : Option Path} {t : Target} {g : Generated}
    (whole : (report s verbose written t g).crash? = none) :
    (report s verbose written t g).output = if written.isNone then g.code else "" := by
  have code := (Report.crash?_followedBy.1 whole).1
  rw [report, Report.output_followedBy code, reportCode_output code, String.append_empty]

/-- If all targets with files are written, and no report is cut short, the others are printed. -/
theorem reports_output {written : List (Value × Path)} {verbose : Bool}
    (all : ∀ p ∈ good, ∀ v, outputPath? c p.1 = some v → ∃ e ∈ written, e.1.key? = v.key?)
    (whole : (reports s verbose c written good).crash? = none) :
    (reports s verbose c written good).output = String.join (printed c good) := by
  induction good with
  | nil => rfl
  | cons p rest ih =>
      obtain ⟨t, g⟩ := p
      obtain ⟨here, others⟩ := List.forall_mem_cons.1 all
      rw [reports] at whole ⊢
      obtain ⟨first, later⟩ := Report.crash?_followedBy.1 whole
      rw [Report.output_followedBy first, ih others later, report_output first, printed, printed]
      cases path : outputPath? c t with
      | none =>
          rw [List.filter_cons_of_pos (by simp [path]), List.map_cons, String.join_cons]
          rfl
      | some v =>
          obtain ⟨place, hplace⟩ := Option.isSome_iff_exists.1 (pathOf?_isSome.2 (here v path))
          rw [List.filter_cons_of_neg (by simp [path]), Option.bind_some, hplace]
          exact String.empty_append

/-! ## What is delivered -/

theorem deliver_exit_zero {errors : String} (exit : (deliver s a c errors good).ending = .exit 0) :
    ∃ outs written, outputs c [] good = .ok outs ∧
      s.tree.writeOutputs s.halves s.directory outs =
        ((deliver s a c errors good).tree, .ok written) ∧
      (reports s a.verbose c written good).crash? = none ∧
      (deliver s a c errors good).output = (reports s a.verbose c written good).output := by
  rw [deliver] at exit ⊢
  cases houts : outputs c [] good with
  | error m =>
      rw [houts] at exit
      exact absurd exit (stopped_withheld _ _ _).ending
  | ok outs =>
      rw [houts] at exit
      dsimp only at exit ⊢
      cases hwrite : s.tree.writeOutputs s.halves s.directory outs with
      | mk tree result =>
          rw [hwrite] at exit
          cases result with
          | error e => exact absurd exit (stopped_withheld _ _ _).ending
          | ok written =>
              dsimp only at exit
              cases crash : (reports s a.verbose c written good).crash? with
              | some crash' =>
                  rw [crash] at exit
                  cases exit
              | none => exact ⟨outs, written, rfl, hwrite, crash, rfl⟩

/-- Whether the code of every target with a file is read from its path. -/
def Delivered (s : Surroundings) (c : Config) (t : FileTree) (good : List (Target × Generated)) :
    Prop :=
  ∀ p ∈ good, ∀ v, outputPath? c p.1 = some v →
    ∃ text, v = .str text ∧ t.read s.directory (Path.ofString text) = .ok (Text.encode p.2.code)

/-- Whether targets whose paths lead to one place have one code. -/
def PlacesAgree (s : Surroundings) (c : Config) (t : FileTree) (good : List (Target × Generated)) :
    Prop :=
  ∀ p ∈ good, ∀ p' ∈ good, ∀ text text', outputPath? c p.1 = some (.str text) →
    outputPath? c p'.1 = some (.str text') → t.SharePlace s.directory text text' →
    p.2.code = p'.2.code

theorem delivered_iff {t : FileTree} {outs : List Output} {written : List (Value × Path)}
    (houts : outputs c [] good = .ok outs)
    (hwrite : s.tree.writeOutputs s.halves s.directory outs = (t, .ok written))
    (names : ∀ p ∈ good, ∀ text, outputPath? c p.1 = some (.str text) →
      ¬ FileTree.IsTemporaryName (Path.ofString text).name) :
    Delivered s c t good ↔ PlacesAgree s c t good := by
  constructor
  · rintro delivered p hp p' hp' text text' path path' ⟨q, hq, hq'⟩
    obtain ⟨_, ⟨⟩, read⟩ := delivered p hp _ path
    obtain ⟨_, ⟨⟩, read'⟩ := delivered p' hp' _ path'
    obtain ⟨r, hr, content⟩ := FileTree.read_eq_ok.1 read
    obtain ⟨r', hr', content'⟩ := FileTree.read_eq_ok.1 read'
    cases hq.symm.trans hr
    cases hq'.symm.trans hr'
    exact Text.encode_inj.1 (Option.some.inj (content.symm.trans content'))
  · intro agree p hp v path
    have paths := fun out hout => (FileTree.paths_of_writeOutputs hwrite out hout).1.path
    obtain ⟨text, rfl, _⟩ := (isPath_of_outputs_iff houts).1 paths p hp v path
    obtain ⟨out, hout, key⟩ := (exists_mem_of_outputs houts).2 p hp _ path
    have outNames : ∀ out ∈ outs, ∀ text, out.path = .str text →
        ¬ FileTree.IsTemporaryName (Path.ofString text).name := by
      intro o ho text' path'
      obtain ⟨p', hp', _, v, hv, key'⟩ := (mem_of_outputs houts o ho).resolve_left List.not_mem_nil
      rw [path'] at key'
      exact names p' hp' text' (Value.key?_eq_str_iff.1 key' ▸ hv)
    obtain ⟨out', hout', text', path', shared, read⟩ :=
      FileTree.read_of_writeOutputs hwrite outNames hout (Value.key?_eq_str_iff.1 key)
    obtain ⟨p', hp', code, v, hv, key'⟩ :=
      (mem_of_outputs houts out' hout').resolve_left List.not_mem_nil
    rw [path'] at key'
    have same := agree p hp p' hp' text text' path (Value.key?_eq_str_iff.1 key' ▸ hv) shared
    exact ⟨text, rfl, by rw [read, code, same]⟩

/-- A generation that ends with the exit code 0 has prepared everything, and prints the codes of the
targets without files in order. Each file holds the code of its target if and only if targets with
different codes have different places, unless a path has the name of a temporary file. -/
theorem run_delivered_iff {arguments : List String} (generates : Generates arguments)
    (exit : (run s arguments).ending = .exit 0) :
    ∃ a c d good, parse arguments = .ok a ∧ Prepared s a c d good ∧
      (run s arguments).output = String.join (printed c good) ∧
      ((∀ p ∈ good, ∀ text, outputPath? c p.1 = some (.str text) →
          ¬ FileTree.IsTemporaryName (Path.ofString text).name) →
        (Delivered s c (run s arguments).tree good ↔
          PlacesAgree s c (run s arguments).tree good)) := by
  cases run_cases s arguments with
  | inr withheld => exact absurd exit (withheld.2 generates).ending
  | inl delivers =>
      obtain ⟨a, c, d, good, errors, parsed, prepared, same⟩ := delivers
      rw [same] at exit ⊢
      obtain ⟨outs, written, houts, hwrite, whole, output⟩ := deliver_exit_zero exit
      refine ⟨a, c, d, good, parsed, prepared, ?_, delivered_iff houts hwrite⟩
      rw [output]
      refine reports_output (fun p hp v path => ?_) whole
      obtain ⟨out, hout, key⟩ := (exists_mem_of_outputs houts).2 p hp v path
      obtain ⟨_, e, he, given⟩ := FileTree.paths_of_writeOutputs hwrite out hout
      exact ⟨e, he, given ▸ key⟩

/-- Surroundings without files, with a text on standard input. Each style has its own name. -/
def onInput (text : String) : Surroundings where
  tree := .empty
  directory := []
  input := text
  reply _ := .failed ""
  halves := .far
  configDepth := 990
  fileDepth := 990
  inputDepth := 990
  styles := ⟨id, fun _ => true⟩

/-- A document without models. -/
def noModels : Surroundings := onInput "\x7b\"models\": []\x7d"

/-- The declarations go to a file, and nothing is printed. -/
theorem run_delivered_to_file :
    (run noModels ["--stdin", "-o", "x.ts"]).ending = .exit 0 ∧
      ∃ a c d good, parse ["--stdin", "-o", "x.ts"] = .ok a ∧ Prepared noModels a c d good ∧
        (run noModels ["--stdin", "-o", "x.ts"]).output = String.join (printed c good) ∧
        ((∀ p ∈ good, ∀ text, outputPath? c p.1 = some (.str text) →
            ¬ FileTree.IsTemporaryName (Path.ofString text).name) →
          (Delivered noModels c (run noModels ["--stdin", "-o", "x.ts"]).tree good ↔
            PlacesAgree noModels c (run noModels ["--stdin", "-o", "x.ts"]).tree good)) := by
  have exit : (run noModels ["--stdin", "-o", "x.ts"]).ending = .exit 0 := by decide +kernel
  exact ⟨exit, run_delivered_iff (by decide +kernel) exit⟩

/-- One file is given for two targets. Both are reported as written to it, and it holds the code of
the second. -/
theorem run_overwrites :
    ¬ ∀ (s : Surroundings) (arguments : List String) (a : Arguments) (c : Config) (d : Datamodel)
      (good : List (Target × Generated)), parse arguments = .ok a → a.listTargets = false →
      Prepared s a c d good → (run s arguments).ending = .exit 0 →
      Delivered s c (run s arguments).tree good := by
  intro delivered
  have evaluated : (prepare? noModels ["--stdin", "-o", "x.ts", "--zod-output", "x.ts"]).map
      (fun (a, c, _, good) => (a.listTargets, good.map fun p => (pathKey? c p.1, p.2.code))) =
      some (false,
        [(some (.str "x.ts"), "// This file was auto-generated by schema-typegen\n"),
          (some (.str "x.ts"), "import \x7b z \x7d from \"zod\";\n")]) := by
    decide +kernel
  obtain ⟨⟨a, c, d, good⟩, prepared, facts⟩ := Option.map_eq_some_iff.1 evaluated
  obtain ⟨parsed, prepared⟩ := prepare?_eq_some prepared
  obtain ⟨generation, codes⟩ := Prod.mk.inj facts
  obtain ⟨p, rest, rfl, hp, codes⟩ := List.map_eq_cons_iff.1 codes
  obtain ⟨p', rest, rfl, hp', _⟩ := List.map_eq_cons_iff.1 codes
  obtain ⟨path, code⟩ := Prod.mk.inj hp
  obtain ⟨path', code'⟩ := Prod.mk.inj hp'
  have both := delivered noModels _ a c d _ parsed generation prepared (by decide +kernel)
  obtain ⟨_, ⟨⟩, read⟩ := both p (by simp) _ (pathKey?_eq_str.1 path)
  obtain ⟨_, ⟨⟩, read'⟩ := both p' (by simp) _ (pathKey?_eq_str.1 path')
  have same := Text.encode_inj.1 (Except.ok.inj (read.symm.trans read'))
  rw [code, code'] at same
  revert same
  decide +kernel

end Typewright.Command
