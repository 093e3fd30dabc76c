import Typewright.Proofs.Generation
import Typewright.Proofs.TypeScript.Renamed
import Typewright.Proofs.Zod.Renamed

/-!
# Affixes and renaming

Affixes do nothing but rename. What is generated with them is generated without them from the
renamed data model, character for character (`generate_renamed`). So every place that prints a name
prints the rendered one.

Three things are asked for. Names must not be empty, since an empty name is looked up like a name
that is not there. No name may be that of a model and of a composite type, since the two parts have
affixes of their own. And only objects may be relations, since a key prints the rendered name of
what its relation refers to, and the type of no other field is renamed.
-/

namespace Typewright

open Datamodel (journal journal_named)

theorem file_renamed {t : Target} {directory : List String} {c : Config} {d : Datamodel}
    {n n' : Naming} (checked : t = .typeScript ∨ t = .zod) (named : d.Named)
    (renders : n.Renders c d) (renders' : n'.Renders c.withoutAffixes (d.renamed c))
    (disjoint : ∀ v ∈ d.names .models, v ∉ d.names .types) (objects : d.RelationsAreObjects)
    {code : String} (h : t.file directory c n d = .ok code) :
    t.file directory c.withoutAffixes n' (d.renamed c) = .ok code := by
  obtain rfl | rfl := checked
  · exact TypeScript.file_renamed named renders renders' disjoint objects h
  · exact Zod.file_renamed named renders renders' disjoint h

/-- What is generated with affixes is generated without them from the renamed data model. -/
theorem generate_renamed {t : Target} {directory : List String} {c : Config} {d : Datamodel}
    {g : Generated} (checked : t = .typeScript ∨ t = .zod) (named : d.Named)
    (disjoint : ∀ v ∈ d.names .models, v ∉ d.names .types) (objects : d.RelationsAreObjects)
    (h : generate t directory c d = .ok g) :
    ∃ g', generate t directory c.withoutAffixes (d.renamed c) = .ok g' ∧ g'.code = g.code := by
  obtain ⟨n, code, hn, hcode, rfl⟩ := generate_eq_ok.1 h
  have renders := Naming.build_renders named hn
  obtain ⟨n', hn'⟩ := (Naming.exists_build_iff named.renamed).2 (renders.apart named).renamed
  have renders' := Naming.build_renders named.renamed hn'
  have hcode' := file_renamed checked named renders renders' disjoint objects hcode
  exact ⟨_, generate_eq_ok.2 ⟨n', code, hn', hcode', rfl⟩, rfl⟩

/-- A configuration with an affix for each part. -/
def journalAffixes : Config :=
  ((Config.default.set .modelPrefix (.str "I")).set .enumSuffix (.str "Kind")).set
    .typePrefix (.str "T")

/-- The posts of users, under names that all change. -/
theorem journal_generate_renamed :
    journal.Named ∧ (∀ v ∈ journal.names .models, v ∉ journal.names .types) ∧
      journal.RelationsAreObjects ∧
      (journal.renamed journalAffixes).names .models = [.str "IUser", .str "IPost"] ∧
      ∃ g g', generate .typeScript ["src"] journalAffixes journal = .ok g ∧
        generate .typeScript ["src"] journalAffixes.withoutAffixes
          (journal.renamed journalAffixes) = .ok g' ∧ g'.code = g.code := by
  have disjoint : ∀ v ∈ journal.names .models, v ∉ journal.names .types := by
    simp [journal, Datamodel.names]
  have objects : journal.RelationsAreObjects := by
    simp [journal, Datamodel.RelationsAreObjects, Datamodel.plainField]
  have made : ∃ g, generate .typeScript ["src"] journalAffixes journal = .ok g := ⟨_, rfl⟩
  obtain ⟨g, hg⟩ := made
  obtain ⟨g', hg', same⟩ := generate_renamed (.inl rfl) journal_named disjoint objects hg
  exact ⟨journal_named, disjoint, objects, rfl, g, g', hg, hg', same⟩

end Typewright
