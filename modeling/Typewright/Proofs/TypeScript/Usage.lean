import Typewright.Proofs.Session
import Typewright.Proofs.TypeScript.Helpers

/-!
# Which helper types are recorded

While a file is made, helper types are recorded, model by model and field by field. What is recorded
in the end is said here without going through the fields: `Helper.UsedBy` holds of a helper type
that is the type of some scalar field. The section of helper types and the figures have the same
ones, each once. So the order of models and fields does not show in them (`Datamodel.Reordered`).

Only declarations record anything. In a session of any other target the record stays empty, whatever
is generated (`perform_used`). `records_exactly` puts this together.
-/

namespace Typewright

open TypeScript (Helper Declarations Writes inOrder usedHelpers)

/-! ## Data models in another order -/

/-- The fields of a model in another order. -/
def Model.Reordered (m m' : Model) : Prop :=
  m.fields.Perm m'.fields ∧ m' = { m with fields := m'.fields }

/-- Models in another order, with their fields in another order. -/
def ModelsReordered (ms ms' : List Model) : Prop :=
  ∃ middle, ms.Perm middle ∧ List.Forall₂ Model.Reordered middle ms'

/-- A data model with its parts in another order. -/
structure Datamodel.Reordered (d d' : Datamodel) : Prop where
  models : ModelsReordered d.models d'.models
  enums : d.enums.Perm d'.enums
  types : ModelsReordered d.types d'.types

section Reordered

variable {P : Field → Prop}

theorem ModelsReordered.exists_field_iff {ms ms' : List Model} (h : ModelsReordered ms ms') :
    (∃ m ∈ ms, ∃ f ∈ m.fields, P f) ↔ ∃ m ∈ ms', ∃ f ∈ m.fields, P f := by
  obtain ⟨middle, perm, fields⟩ := h
  constructor
  · rintro ⟨m, hm, f, hf, hP⟩
    obtain ⟨m', hm', same, _⟩ := exists_right_of_forall₂ fields m (perm.mem_iff.1 hm)
    exact ⟨m', hm', f, same.mem_iff.1 hf, hP⟩
  · rintro ⟨m', hm', f, hf, hP⟩
    obtain ⟨m, hm, same, _⟩ := exists_left_of_forall₂ fields m' hm'
    exact ⟨m, perm.mem_iff.2 hm, f, same.mem_iff.2 hf, hP⟩

/-- A data model uses the same helper types in any order. -/
theorem Datamodel.Reordered.usedBy_iff {c : Config} {d d' : Datamodel} (h : d.Reordered d')
    (helper : Helper) : helper.UsedBy c d' ↔ helper.UsedBy c d := by
  have parts (d : Datamodel) : helper.UsedBy c d ↔
      (∃ m ∈ d.models, ∃ f ∈ m.fields,
        f.kind = .scalar ∧ TypeScript.scalarType c f.type = .ok helper.name) ∨
      ∃ m ∈ d.types, ∃ f ∈ m.fields,
        f.kind = .scalar ∧ TypeScript.scalarType c f.type = .ok helper.name := by
    simp only [Helper.UsedBy, List.mem_append, or_and_right, exists_or]
  rw [parts, parts, h.models.exists_field_iff, h.types.exists_field_iff]

end Reordered

namespace TypeScript

variable {c : Config} {n : Naming} {d : Datamodel}

theorem inOrder_sublist (used : List Helper) : (inOrder used).Sublist Helper.all :=
  List.filter_sublist

/-- Lists with the same helper types are the same in order. -/
theorem inOrder_congr {used used' : List Helper} (same : ∀ h, h ∈ used' ↔ h ∈ used) :
    inOrder used' = inOrder used := by
  refine List.filter_congr fun h _ => ?_
  rw [Bool.eq_iff_iff, List.contains_iff_mem, List.contains_iff_mem]
  exact same h

/-- The file of a generation declares helper types, each once and in order, and its figures have
their names. -/
structure DeclaresHelpers (c : Config) (d : Datamodel) (n : Naming) (g : Generated)
    (helpers : List Helper) : Prop where
  inOrder : helpers.Sublist Helper.all
  /-- The section of helper types has nothing else. -/
  lines : ((helperSection (usedHelpers c n d)).flatMap fun s => Text.lines s.toList) =
    helpers.map fun h => h.declaration.toList
  figures : g.figures.helpers = helpers.map (·.name)

theorem declaresHelpers {directory : List String} {ds : Declarations} {g : Generated}
    (h : generate .typeScript directory c d = .ok g) (writes : Writes c d n ds g) :
    DeclaresHelpers c d n g (inOrder (usedHelpers c n d)) := by
  refine ⟨inOrder_sublist _, lines_helperSection _, ?_⟩
  rw [generate_figures h writes.naming]
  rfl

end TypeScript

/-! ## Records of sessions -/

/-- Only declarations meet helper types. -/
theorem Target.usedHelpers_of_ne {t : Target} (other : t ≠ .typeScript) (c : Config) (n : Naming)
    (d : Datamodel) : t.usedHelpers c n d = [] := by
  cases t with
  | typeScript => exact absurd rfl other
  | zod => rfl
  | pg => rfl

namespace Session

/-- What a session has recorded after a generation: the helper types that were met if it had a
naming, and what was recorded before otherwise. -/
theorem run_used (s : Session) (directory : List String) (d : Datamodel) :
    (s.run directory d).1.used =
      match Naming.build s.config d with
      | .ok n => s.target.usedHelpers s.config n d
      | .error _ => s.used := by
  rw [run_eq, contextOf]
  cases Naming.build s.config d with
  | ok n => rfl
  | error f => rfl

/-- A target without declarations adds nothing to an empty record. -/
theorem run_used_of_ne {s : Session} (other : s.target ≠ .typeScript) (empty : s.used = [])
    (directory : List String) (d : Datamodel) : (s.run directory d).1.used = [] := by
  rw [run_used]
  cases Naming.build s.config d with
  | ok n => exact Target.usedHelpers_of_ne other s.config n d
  | error f => exact empty

/-- However often something is generated without declarations, an empty record stays empty, and
there are no helper types in the figures. -/
theorem perform_used {s : Session} (other : s.target ≠ .typeScript) (empty : s.used = [])
    (steps : List Step) :
    (s.perform steps).1.used = [] ∧
      ∀ g, .ok g ∈ (s.perform steps).2 → g.figures.helpers = [] := by
  induction steps generalizing s with
  | nil => exact ⟨empty, nofun⟩
  | cons step rest ih =>
      cases step with
      | configure name v => exact ih (s := s.configure name v) other empty
      | generate directory d =>
          have next : (s.run directory d).1.target ≠ .typeScript := by
            rw [run_eq]
            exact other
          obtain ⟨used, figures⟩ := ih next (run_used_of_ne other empty directory d)
          refine ⟨used, fun g hg => ?_⟩
          cases List.mem_cons.1 hg with
          | inr later => exact figures g later
          | inl now =>
              have made : generate s.target directory s.config d = .ok g :=
                (s.run_snd directory d).symm.trans now.symm
              obtain ⟨n, _, hn, _, _⟩ := generate_eq_ok.1 made
              rw [generate_figures made hn, Target.usedHelpers_of_ne other]
              rfl

/-- A session of declarations has recorded just the helper types that the data model uses. -/
theorem mem_run_used {s : Session} (declares : s.target = .typeScript) {directory : List String}
    {d : Datamodel} {n : Naming} {ds : Declarations} {g : Generated}
    (writes : Writes s.config d n ds g) (h : Helper) :
    h ∈ (s.run directory d).1.used ↔ h.UsedBy s.config d := by
  rw [run_used, writes.naming, declares]
  exact TypeScript.mem_usedHelpers writes.declarations

/-- A generation of declarations has recorded just the helper types that the data model uses. Its
file declares them, each once and in order, and its figures have them too, also if the parts of the
data model stand in another order. In sessions of other targets nothing is recorded. -/
theorem records_exactly :
    (∀ (s : Session) (directory : List String) (d : Datamodel) (g : Generated),
      s.target = .typeScript → (s.run directory d).2 = .ok g →
        ∃ n ds helpers, Writes s.config d n ds g ∧
          (∀ h, h ∈ (s.run directory d).1.used ↔ h.UsedBy s.config d) ∧
          (∀ h, h ∈ helpers ↔ h.UsedBy s.config d) ∧
          TypeScript.DeclaresHelpers s.config d n g helpers ∧
          ∀ d' g', d.Reordered d' → generate .typeScript directory s.config d' = .ok g' →
            ∃ n' ds', Writes s.config d' n' ds' g' ∧
              TypeScript.DeclaresHelpers s.config d' n' g' helpers) ∧
    ∀ (t : Target) (c : Config) (steps : List Step), t ≠ .typeScript →
      ((start t c).perform steps).1.used = [] ∧
        ∀ g, .ok g ∈ ((start t c).perform steps).2 → g.figures.helpers = [] := by
  refine ⟨fun s directory d g declares h => ?_, fun t c steps other => ?_⟩
  · rw [run_snd, declares] at h
    obtain ⟨n, ds, writes⟩ := TypeScript.exists_writes h
    refine ⟨n, ds, inOrder (usedHelpers s.config n d), writes, mem_run_used declares writes,
      fun _ => TypeScript.mem_inOrder.trans (TypeScript.mem_usedHelpers writes.declarations),
      TypeScript.declaresHelpers h writes, ?_⟩
    intro d' g' reordered h'
    obtain ⟨n', ds', writes'⟩ := TypeScript.exists_writes h'
    have same : inOrder (usedHelpers s.config n' d') = inOrder (usedHelpers s.config n d) := by
      refine TypeScript.inOrder_congr fun x => ?_
      rw [TypeScript.mem_usedHelpers writes'.declarations,
        TypeScript.mem_usedHelpers writes.declarations, reordered.usedBy_iff]
    exact ⟨n', ds', writes', same ▸ TypeScript.declaresHelpers h' writes'⟩
  · exact perform_used (s := start t c) other rfl steps

/-- Invoices with the given fields. -/
def invoices (fields : List Field) : Datamodel where
  models := [{ name := .str "Invoice", dbName := .null, documentation := .null, fields := fields }]
  enums := []
  types := []

/-- The lines of an invoice, and then its total. -/
def invoiceFields : List Field :=
  [Datamodel.plainField "lines" .scalar "Json", Datamodel.plainField "total" .scalar "Decimal"]

theorem invoices_reordered :
    (invoices invoiceFields).Reordered (invoices invoiceFields.reverse) := by
  refine ⟨⟨_, .refl _, .cons ⟨?_, rfl⟩ .nil⟩, .refl _, ⟨_, .refl _, .nil⟩⟩
  exact (List.reverse_perm invoiceFields).symm

/-- The file of invoices declares decimal numbers before JSON values, whichever field comes first.
Their schemas need neither. -/
theorem invoices_record_exactly :
    ∃ g g' n ds helpers n' ds',
      ((start .typeScript Config.default).run ["src"] (invoices invoiceFields)).2 = .ok g ∧
      generate .typeScript ["src"] Config.default (invoices invoiceFields.reverse) = .ok g' ∧
      (invoices invoiceFields).Reordered (invoices invoiceFields.reverse) ∧
      g.figures.helpers = ["Decimal", "JsonValue"] ∧
      Writes Config.default (invoices invoiceFields) n ds g ∧
      (∀ h, h ∈ ((start .typeScript Config.default).run ["src"] (invoices invoiceFields)).1.used ↔
        h.UsedBy Config.default (invoices invoiceFields)) ∧
      TypeScript.DeclaresHelpers Config.default (invoices invoiceFields) n g helpers ∧
      Writes Config.default (invoices invoiceFields.reverse) n' ds' g' ∧
      TypeScript.DeclaresHelpers Config.default (invoices invoiceFields.reverse) n' g' helpers ∧
      Target.zod ≠ .typeScript ∧
      ((start .zod Config.default).perform [.generate ["src"] (invoices invoiceFields)]).1.used =
        [] := by
  have made : ∃ g g',
      ((start .typeScript Config.default).run ["src"] (invoices invoiceFields)).2 = .ok g ∧
      generate .typeScript ["src"] Config.default (invoices invoiceFields.reverse) = .ok g' ∧
      g.figures.helpers = ["Decimal", "JsonValue"] := ⟨_, _, rfl, rfl, rfl⟩
  obtain ⟨g, g', hg, hg', figures⟩ := made
  obtain ⟨declared, others⟩ := records_exactly
  obtain ⟨n, ds, helpers, writes, used, _, declares, turned⟩ := declared _ _ _ g rfl hg
  obtain ⟨n', ds', writes', declares'⟩ := turned _ g' invoices_reordered hg'
  have zod : Target.zod ≠ .typeScript := nofun
  exact ⟨g, g', n, ds, helpers, n', ds', hg, hg', invoices_reordered, figures, writes, used,
    declares, writes', declares', zod, (others .zod Config.default _ zod).1⟩

end Session

end Typewright
