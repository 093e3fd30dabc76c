import Typewright.Proofs.TypeScript.File
import Typewright.TypeScript.Recorded

/-!
# What a record holds

A step with a record is a step without one that also has something to add (`Records`). What a
sequence adds is what its steps add up to the first that fails, that one included
(`Records.bind_ok`, `Records.bind_error`, `records_mapM`). From these follows, definition by
definition outwards, that declarations with a record are the declarations, and that the record grows
by the helper types of the fields that were met (`records_declarations`).

`recordedFile_startingFrom` says what a file is that is made with a record: from an empty record it
is the file, and the record holds its helper types afterwards.
-/

namespace Typewright.TypeScript

open Recorded (ofOutcome note)

/-! ## Steps with a record -/

/-- A step has an outcome and something to add to whatever is recorded. -/
def Records {α : Type} (x : Recorded α) (o : Outcome α) (new : List Helper) : Prop :=
  ∀ used, x.startingFrom used = (o, used ++ new)

section Steps

variable {α β : Type}

theorem records_ofOutcome (o : Outcome α) : Records (ofOutcome o) o [] := by
  intro used
  rw [List.append_nil]
  rfl

theorem records_pure (a : α) : Records (pure a) (.ok a) [] := records_ofOutcome (.ok a)

theorem records_note (helper : Option Helper) : Records (note helper) (.ok ()) helper.toList :=
  fun _ => rfl

theorem startingFrom_bind (x : Recorded α) (f : α → Recorded β) (used : List Helper) :
    (x >>= f).startingFrom used =
      match x.startingFrom used with
      | (.ok a, later) => (f a).startingFrom later
      | (.error e, later) => (.error e, later) := by
  rw [Recorded.startingFrom, Recorded.startingFrom, ExceptT.run_bind, StateT.run_bind]
  obtain ⟨o, later⟩ := x.run.run used
  cases o with
  | ok a => rfl
  | error e => rfl

theorem Records.bind_ok {x : Recorded α} {f : α → Recorded β} {a : α} {o : Outcome β}
    {us vs : List Helper} (hx : Records x (.ok a) us) (hf : Records (f a) o vs) :
    Records (x >>= f) o (us ++ vs) := by
  intro used
  rw [startingFrom_bind, hx used, ← List.append_assoc]
  exact hf _

theorem Records.bind_error {x : Recorded α} {f : α → Recorded β} {e : Fault} {us : List Helper}
    (hx : Records x (.error e) us) : Records (x >>= f) (.error e) us := by
  intro used
  rw [startingFrom_bind, hx used]

/-- What goes on without a record adds nothing. -/
theorem Records.bind_quiet {x : Recorded α} {o : Outcome α} {f : α → Recorded β}
    {g : α → Outcome β} {us : List Helper} (hx : Records x o us)
    (hf : ∀ a, Records (f a) (g a) []) : Records (x >>= f) (o >>= g) us := by
  cases o with
  | error e => exact hx.bind_error
  | ok a =>
      have step := hx.bind_ok (hf a)
      rwa [List.append_nil] at step

/-- A list of steps adds what its steps add, as far as it gets. -/
theorem records_mapM {f : α → Recorded β} {step : α → Outcome β} {new : α → List Helper}
    (each : ∀ a, Records (f a) (step a) (new a)) (l : List α) :
    Records (l.mapM f) (l.mapM step) ((reached step l).flatMap new) := by
  induction l with
  | nil => exact records_pure []
  | cons a l ih =>
      have ha := each a
      rw [List.mapM_cons, List.mapM_cons]
      cases hs : step a with
      | error e =>
          rw [hs] at ha
          rw [reached_cons_of_error hs, List.flatMap_singleton]
          exact ha.bind_error
      | ok b =>
          rw [hs] at ha
          rw [reached_cons_of_ok hs, List.flatMap_cons]
          exact ha.bind_ok (ih.bind_quiet fun bs => records_pure (b :: bs))

end Steps

/-! ## Declarations with a record -/

section Declarations

variable (c : Config) (n : Naming)

theorem records_property (m : Model) (f : Field) :
    Records (recordedProperty c n m f) (property c n m f) (fieldHelper? c f).toList := by
  have step : Records (recordedProperty c n m f) _ _ :=
    (records_note (fieldHelper? c f)).bind_ok (f := fun _ => ofOutcome _)
      (records_ofOutcome (property c n m f))
  rwa [List.append_nil] at step

theorem records_properties (m : Model) :
    Records (recordedProperties c n m) (properties c n m)
      ((reached (property c n m) m.fields).filterMap (fieldHelper? c)) := by
  rw [List.filterMap_eq_flatMap_toList]
  exact (records_mapM (records_property c n m) m.fields).bind_quiet fun _ => records_pure _

theorem records_model (m : Model) :
    Records (recordedModel c n m) (modelDeclaration c n m) (modelHelpers c n m) := by
  rw [recordedModel, modelDeclaration, modelHelpers]
  cases modelShape c with
  | error e => exact (records_ofOutcome _).bind_error
  | ok shape =>
      exact (records_ofOutcome (.ok shape)).bind_ok ((records_properties c n m).bind_quiet
        fun _ => (records_ofOutcome _).bind_quiet fun _ => records_pure _)

/-- Declarations with a record are the declarations, and the record grows by the helper types
met. -/
theorem records_declarations (d : Datamodel) :
    Records (recordedDeclarations c n d) (declarations c n d) (usedHelpers c n d) := by
  have models := records_mapM (records_model c n) d.models
  have types := records_mapM (records_model c n) d.types
  rw [recordedDeclarations, declarations, usedHelpers]
  cases d.enums.mapM (enumDeclaration c n) with
  | error e => exact (records_ofOutcome _).bind_error
  | ok enums =>
      refine (records_ofOutcome (.ok enums)).bind_ok ?_
      rw [reached_append]
      cases hm : d.models.mapM (modelDeclaration c n) with
      | error e =>
          rw [hm] at models
          show Records _ _ ((reached _ _ ++ []).flatMap _)
          rw [List.append_nil]
          exact models.bind_error
      | ok ms =>
          rw [hm] at models
          show Records _ _ ((reached _ _ ++ reached _ _).flatMap _)
          rw [List.flatMap_append]
          exact models.bind_ok (types.bind_quiet fun _ => records_pure _)

end Declarations

/-! ## Files with a record -/

/-- A file that is made from an empty record is the file, and its helper types are recorded. -/
theorem recordedFile_startingFrom (c : Config) (n : Naming) (d : Datamodel) :
    (recordedFile c n d).startingFrom [] = (file c n d, usedHelpers c n d) := by
  have made := records_declarations c n d []
  rw [List.nil_append] at made
  rw [recordedFile, startingFrom_bind, made, file, sections]
  cases declarations c n d with
  | error e => rfl
  | ok ds =>
      cases codeSection c .prefixCode with
      | error e => rfl
      | ok before =>
          cases codeSection c .suffixCode with
          | error e => rfl
          | ok after => rfl

end Typewright.TypeScript
