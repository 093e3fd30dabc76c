import Typewright.Proofs.Naming

/-!
# Looking up names of any kind

Names are values, and two of them are one name when they have one key. `Naming.Finds` says what is
found in a naming without asking that names be texts: under a value there is the rendered form of
a name of the part with the same key, and nothing else; every name of the part is found; and what is
found twice is found in one part under one key. Every naming that is made is of this kind
(`Naming.build_finds`).

A name may have several spellings, such as the integer one and the truth value, and the last of them
is rendered for all. Where the names with one key render alike, each is found under its own rendered
form (`Naming.Finds.get_of_alike`); so it is where no two names of a part have one key
(`Naming.Finds.get_of_distinct`).
-/

namespace Typewright

namespace NameMap

/-! ## Adding names -/

theorem find?_cons (e : NameEntry) (m : NameMap) (k : Key) :
    find? (e :: m) k = if e.key = k then some e.rendered else find? m k := by
  by_cases h : e.key = k
  · rw [if_pos h, find?, List.find?_cons_of_pos (by simpa using h)]
    rfl
  · rw [if_neg h, find?, List.find?_cons_of_neg (by simpa using h)]
    rfl

/-- What is added under a key is found under it, and nothing else changes. -/
theorem find?_insert (m : NameMap) (new : NameEntry) (k : Key) :
    (m.insert new).find? k = if new.key = k then some new.rendered else m.find? k := by
  induction m with
  | nil => rw [insert, find?_cons]
  | cons e rest ih =>
      unfold insert
      by_cases h : e.key = new.key
      · rw [if_pos h, find?_cons, find?_cons, ← h]
        by_cases hk : e.key = k
        · rw [if_pos hk, if_pos hk]
        · rw [if_neg hk, if_neg hk, if_neg hk]
      · rw [if_neg h, find?_cons, find?_cons, ih]
        by_cases hk : e.key = k
        · have hne : new.key ≠ k := fun x => h (hk.trans x.symm)
          rw [if_pos hk, if_pos hk, if_neg hne]
        · rw [if_neg hk, if_neg hk]

/-- What is found after entries were added was there before or is one of them. -/
theorem find?_foldl_insert {es : List NameEntry} {m : NameMap} {k : Key} {r : String}
    (h : (es.foldl insert m).find? k = some r) :
    m.find? k = some r ∨ ∃ e ∈ es, e.key = k ∧ e.rendered = r := by
  induction es generalizing m with
  | nil => exact Or.inl h
  | cons e es ih =>
      obtain before | ⟨x, hx, found⟩ := ih h
      · rw [find?_insert] at before
        by_cases hk : e.key = k
        · rw [if_pos hk] at before
          exact Or.inr ⟨e, List.mem_cons_self, hk, Option.some.inj before⟩
        · rw [if_neg hk] at before
          exact Or.inl before
      · exact Or.inr ⟨x, List.mem_cons_of_mem _ hx, found⟩

/-- What is added is found under its key. -/
theorem find?_foldl_insert_isSome {es : List NameEntry} {m : NameMap} {k : Key}
    (h : (m.find? k).isSome = true ∨ ∃ e ∈ es, e.key = k) :
    ((es.foldl insert m).find? k).isSome = true := by
  induction es generalizing m with
  | nil =>
      obtain h | ⟨e, he, _⟩ := h
      · exact h
      · cases he
  | cons e es ih =>
      refine ih ?_
      rw [find?_insert]
      by_cases hk : e.key = k
      · exact Or.inl (by rw [if_pos hk]; rfl)
      · rw [if_neg hk]
        obtain h | ⟨x, hx, hxk⟩ := h
        · exact Or.inl h
        · cases List.mem_cons.1 hx with
          | inl same => exact absurd (same ▸ hxk) hk
          | inr mem => exact Or.inr ⟨x, mem, hxk⟩

/-! ## The map of names -/

theorem entryOf_eq_ok {before after v : Value} {e : NameEntry} :
    entryOf before after v = .ok e ↔
      v.key? = some e.key ∧ v = e.raw ∧ affixed before v after = e.rendered := by
  constructor
  · intro h
    obtain ⟨k, hk, h⟩ := bind_eq_ok.1 h
    cases pure_eq_ok.1 h
    exact ⟨key_eq_ok.1 hk, rfl, rfl⟩
  · rintro ⟨hk, rfl, hr⟩
    rw [entryOf, key_eq_ok.2 hk, ok_bind, hr]
    rfl

/-- What is found in a map is the rendered form of a name with the same key. -/
theorem exists_name_of_get {names : List Value} {before after : Value} {m : NameMap}
    (h : build names before after = .ok m) {v : Value} {r : String}
    (hg : m.get v = .ok (some r)) :
    ∃ w ∈ names, w.key? = v.key? ∧ r = affixed before w after := by
  obtain ⟨es, hes, h⟩ := bind_eq_ok.1 h
  cases pure_eq_ok.1 h
  obtain ⟨k, hk, hf⟩ := get_eq_ok.1 hg
  obtain none | ⟨e, he, hek, her⟩ := find?_foldl_insert hf
  · cases none
  · obtain ⟨w, hw, made⟩ := mapM_ok_mem_result hes e he
    obtain ⟨hwk, rfl, hr⟩ := entryOf_eq_ok.1 made
    exact ⟨_, hw, by rw [hwk, hek, hk], by rw [hr, her]⟩

/-- Every name is found in its map. -/
theorem exists_get_of_mem {names : List Value} {before after : Value} {m : NameMap}
    (h : build names before after = .ok m) {v : Value} (hv : v ∈ names) :
    ∃ r, m.get v = .ok (some r) := by
  obtain ⟨es, hes, h⟩ := bind_eq_ok.1 h
  cases pure_eq_ok.1 h
  obtain ⟨e, he, made⟩ := mapM_ok_mem hes v hv
  obtain ⟨hk, _, _⟩ := entryOf_eq_ok.1 made
  obtain ⟨r, hr⟩ := Option.isSome_iff_exists.1
    (find?_foldl_insert_isSome (m := []) (Or.inr ⟨e, he, rfl⟩))
  exact ⟨r, get_eq_ok.2 ⟨e.key, hk, hr⟩⟩

end NameMap

namespace Naming

/-- The name of a declaration is found among the models or among the composite types. -/
theorem exists_part_of_declarationName {n : Naming} {v : Value} {r : String}
    (h : n.declarationName v = .ok r) :
    ∃ p, p ≠ .enums ∧ (n.part p).get v = .ok (some r) := by
  obtain ⟨hm, _⟩ | ⟨_, ht⟩ := declarationName_eq_ok.1 h
  · exact ⟨.models, by decide, hm⟩
  · exact ⟨.types, by decide, ht⟩

/-- What is found in a naming of a data model, whatever its names are. -/
structure Finds (n : Naming) (c : Config) (d : Datamodel) : Prop where
  /-- What is found is the rendered form of a name with the same key. -/
  name : ∀ {p v r}, (n.part p).get v = .ok (some r) →
    ∃ w ∈ d.names p, w.key? = v.key? ∧ r = c.rendered p w
  /-- Every name is found. -/
  found : ∀ {p v}, v ∈ d.names p → ∃ r, (n.part p).get v = .ok (some r)
  /-- What is found twice is found in one part under one key. -/
  apart : ∀ {p q v w r}, (n.part p).get v = .ok (some r) → (n.part q).get w = .ok (some r) →
    p = q ∧ v.key? = w.key?

theorem ofDatamodel_eq_ok {c : Config} {d : Datamodel} {n : Naming} (h : ofDatamodel c d = .ok n)
    (p : Part) :
    NameMap.build (d.names p) (c.value p.before) (c.value p.after) = .ok (n.part p) := by
  obtain ⟨models, hm, h⟩ := bind_eq_ok.1 h
  obtain ⟨enums, he, h⟩ := bind_eq_ok.1 h
  obtain ⟨types, ht, h⟩ := bind_eq_ok.1 h
  cases pure_eq_ok.1 h
  cases p with
  | models => exact hm
  | enums => exact he
  | types => exact ht

/-- Among names that are told apart, a rendered name is in one place. -/
theorem apart_of_nodup {n : Naming} (nodup : (n.renderings.map (·.1)).Nodup) {p q : Part}
    {e f : NameEntry} (he : e ∈ n.part p) (hf : f ∈ n.part q) (same : e.rendered = f.rendered) :
    p = q ∧ e = f := by
  rw [map_renderings, List.nodup_flatMap] at nodup
  obtain ⟨within, between⟩ := nodup
  by_cases hpq : p = q
  · subst hpq
    exact ⟨rfl, List.inj_on_of_nodup_map (within p (Part.mem_all p)) he hf same⟩
  · have : Std.Symm (Function.onFun List.Disjoint fun p => (n.part p).map (·.rendered)) :=
      ⟨fun _ _ h _ hq hp => h hp hq⟩
    have disjoint := between.forall (Part.mem_all p) (Part.mem_all q) hpq
    have here : e.rendered ∈ (n.part q).map (·.rendered) := same ▸ List.mem_map_of_mem hf
    exact absurd here (disjoint (List.mem_map_of_mem he))

/-- Whatever is made finds the names of the data model. -/
theorem build_finds {n : Naming} {c : Config} {d : Datamodel} (h : build c d = .ok n) :
    n.Finds c d := by
  obtain ⟨m, hm, h⟩ := bind_eq_ok.1 h
  have made := ofMisuse_eq_ok.1 hm
  obtain ⟨_, clashes, h⟩ := bind_eq_ok.1 h
  cases pure_eq_ok.1 h
  refine ⟨fun hg => ?_, fun hv => ?_, fun hv hw => ?_⟩
  · exact NameMap.exists_name_of_get (ofDatamodel_eq_ok made _) hg
  · exact NameMap.exists_get_of_mem (ofDatamodel_eq_ok made _) hv
  · obtain ⟨k, hk, hf⟩ := NameMap.get_eq_ok.1 hv
    obtain ⟨l, hl, hg⟩ := NameMap.get_eq_ok.1 hw
    obtain ⟨e, he, rfl, her⟩ := NameMap.exists_entry_of_find? hf
    obtain ⟨f, hf, rfl, hfr⟩ := NameMap.exists_entry_of_find? hg
    obtain ⟨rfl, rfl⟩ := apart_of_nodup ((checkClashes_eq_ok id).1 clashes) he hf
      (her.trans hfr.symm)
    exact ⟨rfl, hk.trans hl.symm⟩

namespace Finds

variable {n : Naming} {c : Config} {d : Datamodel}

/-- Where all names with the key of a name render to one form, it is found under that form. -/
theorem get_of_alike (h : n.Finds c d) {p : Part} {v : Value} (hv : v ∈ d.names p)
    (alike : ∀ w ∈ d.names p, w.key? = v.key? → c.rendered p w = c.rendered p v) :
    (n.part p).get v = .ok (some (c.rendered p v)) := by
  obtain ⟨r, hr⟩ := h.found hv
  obtain ⟨w, hw, same, rfl⟩ := h.name hr
  rwa [alike w hw same] at hr

/-- Where no key comes twice, a name is found under its own rendered form. -/
theorem get_of_distinct (h : n.Finds c d) {p : Part} (distinct : ((d.names p).map Value.key?).Nodup)
    {v : Value} (hv : v ∈ d.names p) : (n.part p).get v = .ok (some (c.rendered p v)) := by
  refine h.get_of_alike hv fun w hw same => ?_
  rw [List.inj_on_of_nodup_map distinct hw hv same]

/-- Declarations have one name exactly if what they declare has one key. -/
theorem declarationName_inj (h : n.Finds c d) {v w : Value} {r s : String}
    (hv : n.declarationName v = .ok r) (hw : n.declarationName w = .ok s) :
    r = s ↔ v.key? = w.key? := by
  constructor
  · rintro rfl
    obtain ⟨p, _, hp⟩ := exists_part_of_declarationName hv
    obtain ⟨q, _, hq⟩ := exists_part_of_declarationName hw
    exact (h.apart hp hq).2
  · intro same
    obtain ⟨hm, hr⟩ | ⟨hm, ht⟩ := declarationName_eq_ok.1 hv
    · obtain ⟨hm', _⟩ | ⟨hm' | hm', _⟩ := declarationName_eq_ok.1 hw
      · exact Option.some.inj (NameMap.get_unique same hm hm')
      · cases NameMap.get_unique same hm hm'
      · cases NameMap.get_unique same hm hm'
        exact absurd rfl hr
    · obtain ⟨hm', hs⟩ | ⟨_, ht'⟩ := declarationName_eq_ok.1 hw
      · obtain hm | hm := hm
        · cases NameMap.get_unique same hm hm'
        · cases NameMap.get_unique same hm hm'
          exact absurd rfl hs
      · exact Option.some.inj (NameMap.get_unique same ht ht')

end Finds

end Naming

end Typewright
