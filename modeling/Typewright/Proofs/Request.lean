import Typewright.Proofs.Datamodel.Defects
import Typewright.Request

/-!
# Requests with and without a result

A request for a target that is found, with a configuration that is loaded, has a result or not by
its document alone. It has none when the document is misused: `answer_isOk_iff` says that this is so
exactly if something that cannot be gone through comes before every mismatch. `noModels_misused` is
the shortest of such documents, in which null stands where the models are to be listed.
-/

namespace Typewright.Request

open Document (defects IsDefect MismatchFirst)

variable {reader : Json.Reader} {t : FileTree} {directory : Place} {q : Request} {target : Target}
  {config : Config}

/-! ## By what comes of the document -/

theorem answer_of_read {d : Datamodel}
    (made : Registry.standard.create reader t directory q.target q.config = .ok (target, config))
    (h : Document.read q.document = .ok d) :
    answer reader t directory q = .ok (generate target directory config d) := by
  rw [answer, h]
  dsimp only
  rw [made]
  rfl

/-- Whether the target is found does not matter for a document that does not match. -/
theorem answer_of_mismatch {m : Mismatch} (h : Document.read q.document = .error (.mismatch m)) :
    answer reader t directory q = .ok (.error ⟨.reading, .mismatch m⟩) := by
  rw [answer, h]

theorem answer_of_misuse {m : Misuse} (h : Document.read q.document = .error (.misuse m)) :
    answer reader t directory q = .error (.misuse m) := by
  rw [answer, h]

/-! ## By the defects of the document -/

/-- Reading a document stops at its first defect, which is a mismatch or something that cannot be
gone through. A request whose target and configuration are in order has a result exactly if the
document is read or does not match, which is so exactly if no other defect comes first. The result
for a document that does not match says so. -/
theorem answer_isOk_iff
    (made : Registry.standard.create reader t directory q.target q.config = .ok (target, config)) :
    (∀ f, Document.read q.document = .error f ↔ (defects q.document).head? = some f) ∧
    (∀ f ∈ defects q.document, IsDefect f) ∧
    (((∃ d, Document.read q.document = .ok d) ∨
        ∃ m, Document.read q.document = .error (.mismatch m)) ↔ MismatchFirst q.document) ∧
    ((∃ result, answer reader t directory q = .ok result) ↔ MismatchFirst q.document) ∧
    ∀ m, (defects q.document).head? = some (.mismatch m) →
      answer reader t directory q = .ok (.error ⟨.reading, .mismatch m⟩) := by
  have reports := Document.reports_read q.document
  refine ⟨reports, Document.isDefect_of_mem_defects, Document.read_or_mismatch_iff q.document, ?_,
    fun m first => answer_of_mismatch ((reports _).2 first)⟩
  rw [← Document.read_or_mismatch_iff]
  cases hr : Document.read q.document with
  | ok d => exact iff_of_true ⟨_, answer_of_read made hr⟩ (.inl ⟨d, rfl⟩)
  | error f =>
      have first := List.mem_of_mem_head? ((reports f).1 hr)
      cases Document.isDefect_of_mem_defects f first with
      | mismatch m => exact iff_of_true ⟨_, answer_of_mismatch hr⟩ (.inr ⟨m, rfl⟩)
      | notIterable v _ =>
          refine iff_of_false ?_ ?_
          · rintro ⟨result, h⟩
            exact error_ne_ok ((answer_of_misuse hr).symm.trans h)
          · rintro (⟨d, h⟩ | ⟨m, h⟩)
            · exact error_ne_ok h
            · cases h

/-- A model with a field that is a number, and null for the enums. -/
def oddField : Value :=
  .object [
    ("models", .list [.object [("name", .str "User"), ("fields", .list [.int 3])]]),
    ("enums", .null)]

/-- Of two defects the first is the one that is met. -/
theorem oddField_answer :
    ∃ config,
      Registry.standard.create .usual .empty ["src"] (.str "ts") (.object []) =
        .ok (.typeScript, config) ∧
      defects oddField = [.mismatch (.field (.str "User") (.int 3)), .misuse (.notIterable .null)] ∧
      answer .usual .empty ["src"] ⟨oddField, .str "ts", .object []⟩ =
        .ok (.error ⟨.reading, .mismatch (.field (.str "User") (.int 3))⟩) := by
  have made : ∃ config, Registry.standard.create .usual .empty ["src"] (.str "ts") (.object []) =
      .ok (.typeScript, config) := ⟨_, rfl⟩
  have found : defects oddField =
      [.mismatch (.field (.str "User") (.int 3)), .misuse (.notIterable .null)] := rfl
  obtain ⟨config, made⟩ := made
  obtain ⟨_, _, _, _, answered⟩ := answer_isOk_iff (q := ⟨oddField, .str "ts", .object []⟩) made
  refine ⟨config, made, found, answered (.field (.str "User") (.int 3)) ?_⟩
  rw [found]
  rfl

/-- Null for the models. -/
def noModels : Value := .object [("models", .null)]

/-- A request in which nothing but the document is odd, and that has no result. -/
theorem noModels_misused :
    (∃ config, Registry.standard.create .usual .empty ["src"] (.str "typescript") (.object []) =
        .ok (.typeScript, config)) ∧
      Document.read noModels = .error (.misuse (.notIterable .null)) ∧
      answer .usual .empty ["src"] ⟨noModels, .str "typescript", .object []⟩ =
        .error (.misuse (.notIterable .null)) ∧
      ¬ ∀ v : Value, (∃ d, Document.read v = .ok d) ∨
        ∃ m, Document.read v = .error (.mismatch m) := by
  have misread : Document.read noModels = .error (.misuse (.notIterable .null)) := rfl
  refine ⟨⟨_, rfl⟩, misread, answer_of_misuse misread, fun always => ?_⟩
  rcases always noModels with ⟨d, h⟩ | ⟨m, h⟩
  · exact error_ne_ok (misread.symm.trans h)
  · cases misread.symm.trans h

end Typewright.Request
