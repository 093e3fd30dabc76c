import Typewright.Proofs.Datamodel.Renamed
import Typewright.Proofs.Zod.File

/-!
# Files of schemas of renamed data models

As with TypeScript files, the same file of schemas comes from the renamed data model without affixes
(`file_renamed`). Only enums are referred to, since a schema has no entry for an object.
-/

namespace Typewright.Zod

variable {c : Config} {d : Datamodel} {n n' : Naming}

theorem entry_renamed (named : d.Named) (renders : n.Renders c d)
    (renders' : n'.Renders c.withoutAffixes (d.renamed c)) {f : Field} {o : Option Entry}
    (h : entry c n f = .ok o) : entry c.withoutAffixes n' (d.renamedField c f) = .ok o := by
  have kind : (d.renamedField c f).kind = f.kind := rfl
  have same (notReference : d.renamedType c f = f.type) : d.renamedField c f = f := by
    rw [Datamodel.renamedField, notReference]
  rw [entry] at h ⊢
  rw [kind]
  cases hk : f.kind with
  | object =>
      rw [hk] at h
      exact h
  | enum =>
      rw [hk] at h
      obtain ⟨name, hn, rfl⟩ := map_eq_ok.1 h
      obtain ⟨hv, hn'⟩ := renders.enumName_renamed named renders' hn
      have renamed : (d.renamedField c f).type = _ := Datamodel.renamedType_enum named hk hv
      refine map_eq_ok.2 ⟨name, ?_, rfl⟩
      rw [renamed]
      exact hn'
  | scalar | unsupported =>
      rw [hk] at h
      rw [same (by rw [Datamodel.renamedType, hk])]
      exact h

theorem objectSchema_renamed (named : d.Named) (renders : n.Renders c d)
    (renders' : n'.Renders c.withoutAffixes (d.renamed c)) {m : Model}
    (hm : m.name ∈ d.names .models) (disjoint : ∀ w ∈ d.names .models, w ∉ d.names .types)
    {s : ObjectSchema} (h : objectSchema c n m = .ok s) :
    objectSchema c.withoutAffixes n' (d.renamedModel c .models m) = .ok s := by
  obtain ⟨hn, found, hf, hs⟩ := objectSchema_eq_ok.1 h
  refine objectSchema_eq_ok.2 ⟨?_, found, ?_, hs⟩
  · exact renders.declarationName_renamed named renders' (by decide) hm disjoint hn
  · exact mapM_map_eq_ok (fun f _ o => entry_renamed named renders renders') hf

/-- The renamed data model has the file of schemas of the data model. -/
theorem file_renamed (named : d.Named) (renders : n.Renders c d)
    (renders' : n'.Renders c.withoutAffixes (d.renamed c))
    (disjoint : ∀ w ∈ d.names .models, w ∉ d.names .types) {code : String}
    (h : file c n d = .ok code) : file c.withoutAffixes n' (d.renamed c) = .ok code := by
  obtain ⟨enums, models, he, hm, rfl⟩ := file_eq_ok.1 h
  refine file_eq_ok.2 ⟨enums, models, ?_, ?_, rfl⟩
  · refine mapM_map_eq_ok (fun e _ s hs => ?_) he
    obtain ⟨hn, hv⟩ := enumSchema_eq_ok.1 hs
    exact enumSchema_eq_ok.2 ⟨(renders.enumName_renamed named renders' hn).2, hv⟩
  · refine mapM_map_eq_ok (fun m mem s => ?_) hm
    exact objectSchema_renamed named renders renders' (List.mem_map_of_mem mem) disjoint

end Typewright.Zod
