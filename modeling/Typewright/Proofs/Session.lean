import Typewright.Generation
import Typewright.Proofs.Naming
import Typewright.Proofs.TypeScript.Recorded

/-!
# Sessions and single generations

A session keeps its target, its configuration and the context of its last generation. `run_eq` says
what one generation is: its result is that of `generate`, which knows no session, and what it
leaves behind is its own context if it had a naming. So a result depends on the target and the
configuration alone, and no earlier naming or record shows in it, whether the generation before
succeeded or stopped anywhere.

`perform_eq_freshResults` says this of any sequence of changes to the configuration and generations:
the results are those of a new session for each.
-/

namespace Typewright

/-- From an empty record every target makes its file, and its helper types are recorded. -/
theorem Target.recordedFile_startingFrom (t : Target) (directory : List String) (c : Config)
    (n : Naming) (d : Datamodel) :
    (t.recordedFile directory c n d).startingFrom [] =
      (t.file directory c n d, t.usedHelpers c n d) := by
  cases t with
  | typeScript => exact TypeScript.recordedFile_startingFrom c n d
  | zod => rfl
  | pg => rfl

namespace Session

/-! ## One generation -/

/-- The context of a generation, if it has a naming. -/
def contextOf (t : Target) (c : Config) (d : Datamodel) : Option Context :=
  match Naming.build c d with
  | .ok n => some ⟨n, t.usedHelpers c n d⟩
  | .error _ => none

/-- A generation leaves its own context behind if it has one, and its result is that of a single
generation. -/
theorem run_eq (s : Session) (directory : List String) (d : Datamodel) :
    s.run directory d =
      ({ s with last := (contextOf s.target s.config d).orElse fun _ => s.last },
        generate s.target directory s.config d) := by
  rw [run, contextOf, generate]
  cases Naming.build s.config d with
  | error f => rfl
  | ok n =>
      simp only [Target.recordedFile_startingFrom]
      rfl

theorem run_snd (s : Session) (directory : List String) (d : Datamodel) :
    (s.run directory d).2 = generate s.target directory s.config d := by
  rw [run_eq]

/-- What a session leaves behind does not show in the next result. -/
theorem run_snd_eq_start (s : Session) (directory : List String) (d : Datamodel) :
    (s.run directory d).2 = ((start s.target s.config).run directory d).2 := by
  rw [run_snd, run_snd]
  rfl

/-! ## Sequences of generations -/

/-- What is done in a session. -/
inductive Step where
  /-- A name of the configuration is given a value. -/
  | configure (name : String) (v : Value)
  /-- Code is generated, seen from a working directory. -/
  | generate (directory : List String) (d : Datamodel)

/-- A session after some steps, with the results of its generations. -/
def perform (s : Session) : List Step → Session × List Result
  | [] => (s, [])
  | .configure name v :: rest => (s.configure name v).perform rest
  | .generate directory d :: rest =>
      let (next, result) := s.run directory d
      let (last, results) := next.perform rest
      (last, result :: results)

/-- The results of some steps when every generation has a new session. -/
def freshResults (t : Target) (c : Config) : List Step → List Result
  | [] => []
  | .configure name v :: rest => freshResults t (c.setNamed name v) rest
  | .generate directory d :: rest =>
      ((start t c).run directory d).2 :: freshResults t c rest

/-- A session in any state has the results of new sessions with its target and configuration. -/
theorem perform_snd (steps : List Step) (s : Session) :
    (s.perform steps).2 = freshResults s.target s.config steps := by
  induction steps generalizing s with
  | nil => rfl
  | cons step rest ih =>
      cases step with
      | configure name v => exact ih (s.configure name v)
      | generate directory d =>
          have next : (s.run directory d).1.target = s.target ∧
              (s.run directory d).1.config = s.config := by
            rw [run_eq]
            exact ⟨rfl, rfl⟩
          rw [perform, freshResults, ← run_snd_eq_start, ← next.1, ← next.2, ← ih]

/-- The results of a session are those of a new session for each generation. -/
theorem perform_eq_freshResults (t : Target) (c : Config) (steps : List Step) :
    ((start t c).perform steps).2 = freshResults t c steps := perform_snd steps (start t c)

/-- A price, and something of a scalar type that is not known. -/
def halfway : Datamodel where
  models :=
    [{ name := .str "Order", dbName := .null, documentation := .null
       fields := [Datamodel.plainField "price" .scalar "Decimal",
         Datamodel.plainField "colour" .scalar "Colour"] }]
  enums := []
  types := []

-- What is left behind is not empty: the record of a file that was given up halfway stays.
example : ((start .typeScript Config.default).run ["src"] halfway).1.used = [.decimal] := rfl

end Session

end Typewright
