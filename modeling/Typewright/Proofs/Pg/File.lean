import Typewright.Pg.File
import Typewright.Proofs.Outcome

/-!
# What a data-access file is made of

The definitions that make a data-access file are taken apart, as those of TypeScript files are:
which steps a file, a table, and a column consist of.
-/

namespace Typewright.Pg

theorem file_eq_ok {directory : List String} {c : Config} {n : Naming} {d : Datamodel}
    {code : String} :
    file directory c n d = .ok code ↔
      ∃ tables specifier, d.models.mapM (table n) = .ok tables ∧
        typesModule directory c = .ok specifier ∧
        code = fileText (headerSection c ++
          [clientText c (tables.map (·.name)) specifier, namespaceText tables]) := by
  constructor
  · intro h
    obtain ⟨parts, hp, h⟩ := bind_eq_ok.1 h
    obtain ⟨tables, ht, hp⟩ := bind_eq_ok.1 hp
    obtain ⟨specifier, hs, hp⟩ := bind_eq_ok.1 hp
    rw [pure_eq_ok] at h hp
    exact ⟨tables, specifier, ht, ofMisuse_eq_ok.1 hs, by rw [← h, ← hp]⟩
  · rintro ⟨tables, specifier, ht, hs, rfl⟩
    rw [file, sections, ht, ok_bind, ofMisuse_eq_ok.2 hs]
    rfl

theorem table_eq_ok {n : Naming} {m : Model} {t : Table} :
    table n m = .ok t ↔
      n.declarationName m.name = .ok t.name ∧ t.tableName = m.tableName ∧
        t.primaryKey = m.idFields.map (·.name) ∧
        ∃ found, m.fields.mapM (column? n) = .ok found ∧ t.columns = found.filterMap id := by
  constructor
  · intro h
    obtain ⟨found, hf, h⟩ := bind_eq_ok.1 h
    obtain ⟨name, hn, h⟩ := bind_eq_ok.1 h
    cases pure_eq_ok.1 h
    exact ⟨hn, rfl, rfl, found, ofMisuse_eq_ok.1 hf, rfl⟩
  · rintro ⟨hn, ht, hk, found, hf, hc⟩
    rw [table, ofMisuse_eq_ok.2 hf, ok_bind, hn, ok_bind, ← ht, ← hk, ← hc]
    rfl

theorem column?_eq_ok {n : Naming} {f : Field} {o : Option Value} :
    column? n f = .ok o ↔
      ∃ b, isColumn n f = .ok b ∧ o = if b then some f.name else none := by
  constructor
  · intro h
    obtain ⟨b, hb, h⟩ := bind_eq_ok.1 h
    exact ⟨b, hb, (pure_eq_ok.1 h).symm⟩
  · rintro ⟨b, hb, rfl⟩
    rw [column?, hb]
    rfl

end Typewright.Pg
