import Typewright.Datamodel.Document
import Typewright.Proofs.Outcome

/-!
# Defects of documents

A *defect* is something in a document that is not as it has to be. `defects` lists all of them in
the order in which a document is read: the document, its models with their fields, its enums with
their values, its composite types. Reading stops at the first of them: `reports_read` says that it
fails with the first defect and with no other, so that a document is read exactly if it has none.

There are two kinds of defects (`isDefect_of_mem_defects`). Most are mismatches. But something that
cannot be gone through, where things are to be listed, is misused.
-/

namespace Typewright.Document

/-! ## The list of defects -/

/-- Something that has to be gone through and cannot. -/
def listDefects (v : Value) : List Fault :=
  match v.elements? with
  | some _ => []
  | none => [.misuse (.notIterable v.kind)]

/-- The defects of what an entry lists, each item with its own. -/
def listedDefects (ofItem : Value → List Fault) (es : Entries) (name : String) : List Fault :=
  let v := es.getD name (.list [])
  listDefects v ++ (v.elements?.getD []).flatMap ofItem

/-- The defect of an entry that lists names of fields. -/
def fieldNamesDefects (es : Entries) (name : String) : List Fault :=
  listDefects ((es.getD name .null).orElse (.list []))

/-- An entry that has to be there and is not. -/
def entryDefects (es : Entries) (name : String) : List Fault :=
  if (es.get? name).isSome then [] else [.mismatch (.missingEntry name)]

/-- The defects of a value that has to be an object. -/
def objectDefects (v : Value) (otherwise : Mismatch) (ofEntries : Entries → List Fault) :
    List Fault :=
  match v with
  | .object es => ofEntries es
  | _ => [.mismatch otherwise]

/-- The defect of the kind of a field. -/
def kindDefects (owner : Value) (es : Entries) : List Fault :=
  match es.get? "kind" with
  | none => [.mismatch (.noKind owner (.object es))]
  | some v =>
      if (fieldKind? v).isSome then []
      else [.mismatch (.unknownKind v owner (es.getD "name" .null))]

/-- The defect of a field without a name or a type. -/
def signatureDefects (owner : Value) (es : Entries) : List Fault :=
  if (es.get? "name").isSome && (es.get? "type").isSome then []
  else [.mismatch (.noNameOrType owner)]

/-- The defects of a field. -/
def fieldDefects (owner v : Value) : List Fault :=
  objectDefects v (.field owner v) fun es =>
    kindDefects owner es ++ (signatureDefects owner es ++
      (fieldNamesDefects es "relationFromFields" ++ fieldNamesDefects es "relationToFields"))

/-- The defects of a model or composite type. -/
def modelDefects (v : Value) : List Fault :=
  objectDefects v (.declaration "model" v) fun es =>
    entryDefects es "name" ++ listedDefects (fieldDefects (es.getD "name" .null)) es "fields"

/-- The defect of a value of an enum. -/
def enumValueDefects (v : Value) : List Fault :=
  match v with
  | .object es => entryDefects es "name"
  | _ => []

/-- The defects of an enum. -/
def enumDefects (v : Value) : List Fault :=
  objectDefects v (.declaration "enum" v) fun es =>
    -- Unlike those of a model, the parts of an enum come before its name.
    listedDefects enumValueDefects es "values" ++ entryDefects es "name"

/-- The defects of the three sections of a data model. -/
def datamodelDefects (es : Entries) : List Fault :=
  listedDefects modelDefects es "models" ++
    (listedDefects enumDefects es "enums" ++ listedDefects modelDefects es "types")

/-- The defects of a document. -/
def defects (v : Value) : List Fault :=
  objectDefects v (.document v.kind) fun es =>
    let inner := es.getD "datamodel" v
    objectDefects inner (.datamodel inner.kind) datamodelDefects

/-! ## Kinds of defects -/

/-- A defect is a mismatch, or something that cannot be gone through. -/
inductive IsDefect : Fault → Prop where
  | mismatch (m : Mismatch) : IsDefect (.mismatch m)
  | notIterable (v : Value) (h : v.elements? = none) : IsDefect (.misuse (.notIterable v.kind))

section Kinds

variable {es : Entries} {name : String} {owner v : Value}

theorem isDefect_of_mem_singleton {m : Mismatch} : ∀ f ∈ [Fault.mismatch m], IsDefect f :=
  List.forall_mem_singleton.2 (.mismatch m)

theorem isDefect_of_mem_list : ∀ f ∈ listDefects v, IsDefect f := by
  rw [listDefects]
  cases h : v.elements? with
  | some vs => nofun
  | none => exact List.forall_mem_singleton.2 (.notIterable v h)

theorem isDefect_of_mem_listed {ofItem : Value → List Fault}
    (each : ∀ v, ∀ f ∈ ofItem v, IsDefect f) : ∀ f ∈ listedDefects ofItem es name, IsDefect f := by
  rw [listedDefects, List.forall_mem_append, List.forall_mem_flatMap]
  exact ⟨isDefect_of_mem_list, fun v _ => each v⟩

theorem isDefect_of_mem_entry : ∀ f ∈ entryDefects es name, IsDefect f := by
  rw [entryDefects]
  split
  · nofun
  · exact isDefect_of_mem_singleton

theorem isDefect_of_mem_object {m : Mismatch} {ofEntries : Entries → List Fault}
    (each : ∀ es, ∀ f ∈ ofEntries es, IsDefect f) :
    ∀ f ∈ objectDefects v m ofEntries, IsDefect f := by
  cases v with
  | object es => exact each es
  | _ => exact isDefect_of_mem_singleton

theorem isDefect_of_mem_kind : ∀ f ∈ kindDefects owner es, IsDefect f := by
  rw [kindDefects]
  split
  · exact isDefect_of_mem_singleton
  · split
    · nofun
    · exact isDefect_of_mem_singleton

theorem isDefect_of_mem_signature : ∀ f ∈ signatureDefects owner es, IsDefect f := by
  rw [signatureDefects]
  split
  · nofun
  · exact isDefect_of_mem_singleton

theorem isDefect_of_mem_field : ∀ f ∈ fieldDefects owner v, IsDefect f := by
  refine isDefect_of_mem_object fun es => ?_
  rw [List.forall_mem_append, List.forall_mem_append, List.forall_mem_append]
  exact ⟨isDefect_of_mem_kind, isDefect_of_mem_signature, isDefect_of_mem_list,
    isDefect_of_mem_list⟩

theorem isDefect_of_mem_model : ∀ f ∈ modelDefects v, IsDefect f := by
  refine isDefect_of_mem_object fun es => ?_
  rw [List.forall_mem_append]
  exact ⟨isDefect_of_mem_entry, isDefect_of_mem_listed fun _ => isDefect_of_mem_field⟩

theorem isDefect_of_mem_enumValue : ∀ f ∈ enumValueDefects v, IsDefect f := by
  cases v with
  | object es => exact isDefect_of_mem_entry
  | _ => nofun

theorem isDefect_of_mem_enum : ∀ f ∈ enumDefects v, IsDefect f := by
  refine isDefect_of_mem_object fun es => ?_
  rw [List.forall_mem_append]
  exact ⟨isDefect_of_mem_listed fun _ => isDefect_of_mem_enumValue, isDefect_of_mem_entry⟩

theorem isDefect_of_mem_datamodel : ∀ f ∈ datamodelDefects es, IsDefect f := by
  rw [datamodelDefects, List.forall_mem_append, List.forall_mem_append]
  exact ⟨isDefect_of_mem_listed fun _ => isDefect_of_mem_model,
    isDefect_of_mem_listed fun _ => isDefect_of_mem_enum,
    isDefect_of_mem_listed fun _ => isDefect_of_mem_model⟩

/-- What is wrong with a document is a mismatch, or that something cannot be gone through. -/
theorem isDefect_of_mem_defects : ∀ f ∈ defects v, IsDefect f :=
  isDefect_of_mem_object fun _ => isDefect_of_mem_object fun _ => isDefect_of_mem_datamodel

end Kinds

/-! ## Reading stops at the first defect -/

/-- A step fails with the first of some faults, and succeeds if there are none. -/
def Reports {α : Type} (x : Outcome α) (fs : List Fault) : Prop :=
  ∀ f, x = .error f ↔ fs.head? = some f

section Steps

variable {α β : Type}

theorem reports_ok (a : α) : Reports (.ok a : Outcome α) [] := by
  intro f
  simp

/-- What comes after the first fault does not matter. -/
theorem reports_error (f : Fault) (rest : List Fault) :
    Reports (.error f : Outcome α) (f :: rest) := by
  intro g
  simp

theorem Reports.eq_nil {a : α} {fs : List Fault} (h : Reports (.ok a : Outcome α) fs) :
    fs = [] := by
  cases fs with
  | nil => rfl
  | cons f rest => cases (h f).2 rfl

theorem Reports.bind {x : Outcome α} {k : α → Outcome β} {fs gs : List Fault} (hx : Reports x fs)
    (hk : ∀ a, x = .ok a → Reports (k a) gs) : Reports (x >>= k) (fs ++ gs) := by
  cases x with
  | ok a =>
      rw [hx.eq_nil]
      exact hk a rfl
  | error f =>
      obtain ⟨rest, rfl⟩ : ∃ rest, fs = f :: rest := List.head?_eq_some_iff.1 ((hx f).1 rfl)
      exact reports_error f (rest ++ gs)

/-- The last step of a sequence, after which nothing fails. -/
theorem Reports.map {x : Outcome α} {fs : List Fault} (hx : Reports x fs) (g : α → β) :
    Reports (x >>= fun a => pure (g a)) fs := by
  have step := hx.bind (k := fun a => pure (g a)) fun a _ => reports_ok (g a)
  rwa [List.append_nil] at step

theorem reports_mapM {f : α → Outcome β} {ofItem : α → List Fault}
    (each : ∀ a, Reports (f a) (ofItem a)) (l : List α) :
    Reports (l.mapM f) (l.flatMap ofItem) := by
  induction l with
  | nil => exact reports_ok []
  | cons a l ih =>
      rw [List.mapM_cons, List.flatMap_cons]
      exact (each a).bind fun b _ => ih.map (b :: ·)

end Steps

section Documents

variable {β : Type}

theorem reports_elements (v : Value) : Reports (Outcome.ofMisuse v.elements) (listDefects v) := by
  rw [Value.elements, listDefects]
  cases v.elements? with
  | some vs => exact reports_ok vs
  | none => exact reports_error _ []

theorem reports_listed {f : Value → Outcome β} {ofItem : Value → List Fault}
    (each : ∀ v, Reports (f v) (ofItem v)) (es : Entries) (name : String) :
    Reports (listed es name >>= fun vs => vs.mapM f) (listedDefects ofItem es name) := by
  refine (reports_elements _).bind fun vs h => ?_
  rw [ofMisuse_eq_ok, Value.elements] at h
  split at h
  · next ws found =>
      cases h
      rw [found]
      exact reports_mapM each vs
  · cases h

theorem reports_requireEntry (es : Entries) (name : String) :
    Reports (requireEntry es name) (entryDefects es name) := by
  rw [requireEntry, entryDefects]
  cases es.get? name with
  | some v => exact reports_ok v
  | none => exact reports_error _ []

theorem getD_of_requireEntry {es : Entries} {name : String} {v : Value}
    (h : requireEntry es name = .ok v) (fallback : Value) : es.getD name fallback = v := by
  rw [requireEntry] at h
  split at h
  · next w found =>
      cases h
      rw [Entries.getD, found]
      rfl
  · cases h

theorem reports_object {k : Entries → Outcome β} {ofEntries : Entries → List Fault}
    (each : ∀ es, Reports (k es) (ofEntries es)) (v : Value) (m : Mismatch) :
    Reports (requireObject v m >>= k) (objectDefects v m ofEntries) := by
  cases v with
  | object es => exact each es
  | _ => exact reports_error _ []

theorem reports_fieldKind (es : Entries) (owner : Value) :
    Reports (fieldKind es owner) (kindDefects owner es) := by
  rw [fieldKind, kindDefects]
  cases es.get? "kind" with
  | none => exact reports_error _ []
  | some v =>
      dsimp only
      cases fieldKind? v with
      | some k => exact reports_ok k
      | none => exact reports_error _ []

theorem reports_field (owner v : Value) : Reports (field owner v) (fieldDefects owner v) := by
  refine reports_object (fun es => ?_) v _
  refine (reports_fieldKind es owner).bind fun kind _ => ?_
  rw [signatureDefects]
  cases es.get? "name" with
  | none => exact reports_error _ _
  | some name =>
      cases es.get? "type" with
      | none => exact reports_error _ _
      | some type =>
          exact (reports_elements _).bind fun fromFields _ => (reports_elements _).map _

theorem reports_model (v : Value) : Reports (model v) (modelDefects v) := by
  refine reports_object (fun es => ?_) v _
  refine (reports_requireEntry es "name").bind fun name h => ?_
  -- The fields are read for an owner that has a name by now.
  rw [getD_of_requireEntry h, ← bind_assoc]
  exact (reports_listed (reports_field name) es "fields").map _

theorem reports_enumValue (v : Value) : Reports (enumValue v) (enumValueDefects v) := by
  cases v with
  | object es => exact reports_requireEntry es "name"
  | _ => exact reports_ok _

theorem reports_enumeration (v : Value) : Reports (enumeration v) (enumDefects v) := by
  refine reports_object (fun es => ?_) v _
  rw [← bind_assoc]
  exact (reports_listed reports_enumValue es "values").bind fun values _ =>
    (reports_requireEntry es "name").map _

theorem reports_datamodel (es : Entries) : Reports (datamodel es) (datamodelDefects es) := by
  rw [datamodel, ← bind_assoc]
  refine (reports_listed reports_model es "models").bind fun models _ => ?_
  rw [← bind_assoc]
  refine (reports_listed reports_enumeration es "enums").bind fun enums _ => ?_
  rw [← bind_assoc]
  exact (reports_listed reports_model es "types").map _

/-- Reading a document fails with its first defect, and succeeds if it has none. -/
theorem reports_read (v : Value) : Reports (read v) (defects v) :=
  reports_object (fun _ => reports_object reports_datamodel _ _) v _

/-- A document is read exactly if it has no defects. -/
theorem read_isOk_iff (v : Value) : (∃ d, read v = .ok d) ↔ defects v = [] := by
  have reports := reports_read v
  cases hr : read v with
  | ok d =>
      rw [hr] at reports
      exact iff_of_true ⟨d, rfl⟩ reports.eq_nil
  | error f =>
      refine iff_of_false (fun ⟨_, h⟩ => error_ne_ok h) fun none => ?_
      have first := (reports f).1 hr
      rw [none] at first
      cases first

end Documents

/-! ## Documents that are read or do not match -/

/-- A document whose first defect, if it has any, is a mismatch. -/
def MismatchFirst (v : Value) : Prop :=
  ∀ f, (defects v).head? = some f → ∃ m, f = .mismatch m

/-- A document is read or does not match, unless something that cannot be gone through comes before
every mismatch. -/
theorem read_or_mismatch_iff (v : Value) :
    ((∃ d, read v = .ok d) ∨ ∃ m, read v = .error (.mismatch m)) ↔ MismatchFirst v := by
  constructor
  · rintro (⟨d, hd⟩ | ⟨m, hm⟩) f first
    · rw [(read_isOk_iff v).1 ⟨d, hd⟩] at first
      cases first
    · cases hm.symm.trans ((reports_read v f).2 first)
      exact ⟨m, rfl⟩
  · intro ordered
    cases hr : read v with
    | ok d => exact .inl ⟨d, rfl⟩
    | error f =>
        obtain ⟨m, rfl⟩ := ordered f ((reports_read v f).1 hr)
        exact .inr ⟨m, rfl⟩

end Typewright.Document
