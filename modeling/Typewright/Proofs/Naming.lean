import Mathlib.Data.List.Pairwise
import Typewright.Proofs.NameMap

/-!
# The naming of a data model

`Naming.Renders` says what a naming is: each of its three maps lists the names of its part, and no
two entries have one rendered name. When every declaration has a name, a naming is what `build`
gives (`Naming.build_renders`), it is given exactly when the rendered names of different parts are
apart (`Naming.exists_build_iff`), and there is no other way for `build` to fail than a collision
(`Naming.build_error`).

The rest says what is found in a naming, in terms of the data model alone. A raw name refers to a
composite type before a model (`Datamodel.Refers`, `Naming.Renders.resolve_eq_some`), and a
declaration is rendered as a model before a composite type
(`Naming.Renders.declarationName_eq_ok`). Both orders agree as long as no name is that of a model
and of a composite type.
-/

namespace Typewright

/-! ## Data models with names -/

namespace Datamodel

/-- Every model, enum and composite type has a name. -/
def Named (d : Datamodel) : Prop := ∀ p, ∀ v ∈ d.names p, v.IsName

/-- The name of every model, enum and composite type is a text. -/
def Texts (d : Datamodel) : Prop := ∀ p, ∀ v ∈ d.names p, v.IsText

theorem Named.texts {d : Datamodel} (h : d.Named) : d.Texts := fun p v hv => (h p v hv).isText

/-- Names of different parts render to different names. -/
def Apart (c : Config) (d : Datamodel) : Prop :=
  ∀ p q, ∀ v ∈ d.names p, ∀ w ∈ d.names q, c.rendered p v = c.rendered q w → p = q

/-- What a raw name refers to: a composite type, or else a model. -/
inductive Refers (c : Config) (d : Datamodel) (v : Value) : Reference → Prop
  /-- The name is that of a composite type. -/
  | composite : v ∈ d.names .types → Refers c d v (.composite (c.rendered .types v))
  /-- The name is that of a model, and of no composite type. -/
  | model : v ∉ d.names .types → v ∈ d.names .models →
      Refers c d v (.model (c.rendered .models v))

/-- A required field of one value, with no documentation and in no key. -/
def plainField (name : String) (kind : FieldKind) (type : String) : Field where
  name := .str name
  kind := kind
  type := .str type
  isRequired := .bool true
  isList := .bool false
  documentation := .null
  fromFields := []
  toFields := []
  defaultValue := .null
  hasDefault := .bool false
  isId := .bool false
  isUnique := .bool false

/-- Users and their posts: a data model with a field of each kind and a relation with its key. -/
def journal : Datamodel where
  models :=
    [{ name := .str "User", dbName := .null, documentation := .null
       fields := [plainField "id" .scalar "Int", plainField "role" .enum "Role",
         { plainField "posts" .object "Post" with isList := .bool true }] },
     { name := .str "Post", dbName := .null, documentation := .null
       fields := [plainField "authorId" .scalar "Int",
         { plainField "author" .object "User" with
           fromFields := [.str "authorId"], toFields := [.str "id"] },
         plainField "place" .object "Place", plainField "raw" .unsupported "xml"] }]
  enums := [{ name := .str "Role", values := [.str "READER"], documentation := .null }]
  types :=
    [{ name := .str "Place", dbName := .null, documentation := .null
       fields := [plainField "since" .scalar "DateTime"] }]

theorem journal_named : journal.Named := by
  intro p v hv
  have named : ∀ p, ∀ v ∈ journal.names p, ∃ s, s ≠ "" ∧ v = .str s := by
    intro p
    cases p <;> simp [journal, names]
  exact named p v hv

end Datamodel

namespace Naming

/-! ## Looking names up -/

/-- A declaration has the name that is found among the models if there is something to show, and
that found among the composite types otherwise. -/
theorem declarationName_eq_ok {n : Naming} {v : Value} {r : String} :
    n.declarationName v = .ok r ↔
      (n.models.get v = .ok (some r) ∧ r ≠ "") ∨
        ((n.models.get v = .ok none ∨ n.models.get v = .ok (some "")) ∧
          n.types.get v = .ok (some r)) := by
  have types : declarationName.fromTypes n v = .ok r ↔ n.types.get v = .ok (some r) := by
    constructor
    · intro h
      obtain ⟨o, ho, h⟩ := bind_eq_ok.1 h
      cases o with
      | none => exact absurd h mismatched_ne_ok
      | some s =>
          cases pure_eq_ok.1 h
          exact ofMisuse_eq_ok.1 ho
    · intro h
      rw [declarationName.fromTypes, ofMisuse_eq_ok.2 h]
      rfl
  constructor
  · intro h
    obtain ⟨o, ho, h⟩ := bind_eq_ok.1 h
    have hm := ofMisuse_eq_ok.1 ho
    cases o with
    | none => exact Or.inr ⟨Or.inl hm, types.1 h⟩
    | some s =>
        by_cases hs : s = ""
        · subst hs
          exact Or.inr ⟨Or.inr hm, types.1 h⟩
        · simp only [hs, ne_eq, not_false_eq_true, if_true] at h
          cases pure_eq_ok.1 h
          exact Or.inl ⟨hm, hs⟩
  · rintro (⟨hm, hr⟩ | ⟨hm | hm, ht⟩)
    · rw [declarationName, ofMisuse_eq_ok.2 hm, ok_bind]
      simp only [hr, ne_eq, not_false_eq_true, if_true]
      rfl
    · rw [declarationName, ofMisuse_eq_ok.2 hm]
      exact types.2 ht
    · rw [declarationName, ofMisuse_eq_ok.2 hm]
      exact types.2 ht

/-- An enum has the name that is found for it if there is something to show. -/
theorem enumName_eq_ok {n : Naming} {v : Value} {r : String} :
    n.enumName v = .ok r ↔ n.enums.get v = .ok (some r) ∧ r ≠ "" := by
  constructor
  · intro h
    obtain ⟨o, ho, h⟩ := bind_eq_ok.1 h
    split at h
    · next name hname =>
        cases pure_eq_ok.1 h
        obtain ⟨rfl, hr⟩ := Option.filter_eq_some_iff.1 hname
        exact ⟨ofMisuse_eq_ok.1 ho, by simpa using hr⟩
    · exact absurd h mismatched_ne_ok
  · rintro ⟨he, hr⟩
    rw [enumName, ofMisuse_eq_ok.2 he, ok_bind, Option.filter_some, if_pos (by simpa using hr)]
    rfl

/-- A name refers to a composite type if one is found that has something to show. -/
theorem resolve_eq_composite {n : Naming} {v : Value} {r : String} :
    n.resolve v = .ok (some (.composite r)) ↔ n.types.get v = .ok (some r) ∧ r ≠ "" := by
  constructor
  · intro h
    obtain ⟨composite, hc, h⟩ := bind_eq_ok.1 h
    obtain ⟨model, _, h⟩ := bind_eq_ok.1 h
    have found := pure_eq_ok.1 h
    split at found
    · next name hname =>
        cases found
        obtain ⟨rfl, hr⟩ := Option.filter_eq_some_iff.1 hname
        exact ⟨hc, by simpa using hr⟩
    · cases found
    · cases found
  · rintro ⟨hc, hr⟩
    obtain ⟨k, hk, _⟩ := NameMap.get_eq_ok.1 hc
    have hm : n.models.get v = .ok _ := NameMap.get_eq_ok.2 ⟨k, hk, rfl⟩
    rw [resolve, hc, ok_bind, hm, ok_bind, Option.filter_some, if_pos (by simpa using hr)]
    rfl

/-- A name refers to a model if one is found that has something to show, and no such composite
type is. -/
theorem resolve_eq_model {n : Naming} {v : Value} {r : String} :
    n.resolve v = .ok (some (.model r)) ↔
      (n.types.get v = .ok none ∨ n.types.get v = .ok (some "")) ∧
        n.models.get v = .ok (some r) ∧ r ≠ "" := by
  constructor
  · intro h
    obtain ⟨composite, hc, h⟩ := bind_eq_ok.1 h
    obtain ⟨model, hm, h⟩ := bind_eq_ok.1 h
    have found := pure_eq_ok.1 h
    split at found
    · cases found
    · next name notComposite hname =>
        cases found
        obtain ⟨rfl, hr⟩ := Option.filter_eq_some_iff.1 hname
        refine ⟨?_, hm, by simpa using hr⟩
        cases composite with
        | none => exact Or.inl hc
        | some s =>
            rw [Option.filter_eq_none_iff] at notComposite
            have empty : s = "" := by simpa using notComposite
            exact Or.inr (empty ▸ hc)
    · cases found
  · rintro ⟨hc, hm, hr⟩
    have shown : (some r).filter (· ≠ "") = some r := by
      rw [Option.filter_some, if_pos (by simpa using hr)]
    obtain hc | hc := hc
    · rw [resolve, hc, ok_bind, hm, ok_bind, shown]
      rfl
    · rw [resolve, hc, ok_bind, hm, ok_bind, shown]
      rfl

/-! ## What a naming is -/

/-- A naming lists the names of each part, and tells all rendered names apart. -/
structure Renders (n : Naming) (c : Config) (d : Datamodel) : Prop where
  /-- Each map lists its part. -/
  lists : ∀ p, (n.part p).Lists (d.names p) (c.value p.before) (c.value p.after)
  /-- No rendered name comes twice. -/
  nodup : (n.renderings.map (·.1)).Nodup

theorem map_renderings (n : Naming) :
    n.renderings.map (·.1) = Part.all.flatMap fun p => (n.part p).map (·.rendered) := by
  rw [renderings, entries, List.map_map, List.map_flatMap]
  rfl

/-- Rendered names are told apart exactly when those of different parts are. -/
theorem nodup_renderings_iff {n : Naming} {c : Config} {d : Datamodel} (texts : d.Texts)
    (lists : ∀ p, (n.part p).Lists (d.names p) (c.value p.before) (c.value p.after)) :
    (n.renderings.map (·.1)).Nodup ↔ d.Apart c := by
  have mem (p : Part) (r : String) :
      r ∈ (n.part p).map (·.rendered) ↔ ∃ v ∈ d.names p, r = c.rendered p v :=
    (lists p).mem_rendered (texts p)
  rw [map_renderings, List.nodup_flatMap]
  constructor
  · rintro ⟨_, disjoint⟩ p q v hv w hw same
    by_contra hpq
    have : Std.Symm (Function.onFun List.Disjoint fun p => (n.part p).map (·.rendered)) :=
      ⟨fun _ _ h _ hq hp => h hp hq⟩
    exact disjoint.forall (Part.mem_all p) (Part.mem_all q) hpq
      ((mem p _).2 ⟨v, hv, rfl⟩) ((mem q _).2 ⟨w, hw, same⟩)
  · intro apart
    -- Within a part the affixes are the same, so only different parts can collide.
    refine ⟨fun p _ => (lists p).nodup_rendered, ?_⟩
    refine List.Nodup.pairwise_of_forall_ne (by decide) fun p _ q _ hpq r hp hq => ?_
    obtain ⟨v, hv, rfl⟩ := (mem p r).1 hp
    obtain ⟨w, hw, same⟩ := (mem q _).1 hq
    exact hpq (apart p q v hv w hw same)

/-! ## Making a naming -/

/-- The maps of the three parts can be made. -/
theorem ofDatamodel_lists {d : Datamodel} (texts : d.Texts) (c : Config) :
    ∃ n, ofDatamodel c d = .ok n ∧
      ∀ p, (n.part p).Lists (d.names p) (c.value p.before) (c.value p.after) := by
  have map (p : Part) := NameMap.build_lists (texts p) (c.value p.before) (c.value p.after)
  obtain ⟨models, hm, lm⟩ := map .models
  obtain ⟨enums, he, le⟩ := map .enums
  obtain ⟨types, ht, lt⟩ := map .types
  refine ⟨⟨models, enums, types⟩, ?_, fun p => ?_⟩
  · rw [ofDatamodel, NameMap.ofPart, hm, NameMap.ofPart, he, NameMap.ofPart, ht]
    rfl
  · cases p with
    | models => exact lm
    | enums => exact le
    | types => exact lt

/-- Making a naming is making its maps and looking for clashes. -/
theorem build_eq {n : Naming} {c : Config} {d : Datamodel} (h : ofDatamodel c d = .ok n) :
    build c d = (checkClashes id n.renderings).map fun _ => n := by
  rw [build, h]
  show (checkClashes id n.renderings >>= fun _ => pure n) = _
  cases checkClashes id n.renderings with
  | error f => rfl
  | ok u => rfl

/-- What is made of texts renders the data model. -/
theorem renders_of_texts {n : Naming} {c : Config} {d : Datamodel} (texts : d.Texts)
    (h : build c d = .ok n) : n.Renders c d := by
  obtain ⟨m, hm, lists⟩ := ofDatamodel_lists texts c
  rw [build_eq hm, map_eq_ok] at h
  obtain ⟨_, clashes, rfl⟩ := h
  exact ⟨lists, (checkClashes_eq_ok id).1 clashes⟩

/-- What is made renders the data model. -/
theorem build_renders {n : Naming} {c : Config} {d : Datamodel} (named : d.Named)
    (h : build c d = .ok n) : n.Renders c d := renders_of_texts named.texts h

/-- A naming can be made exactly when the names of different parts are apart. -/
theorem exists_build_iff {c : Config} {d : Datamodel} (named : d.Named) :
    (∃ n, build c d = .ok n) ↔ d.Apart c := by
  obtain ⟨m, hm, lists⟩ := ofDatamodel_lists named.texts c
  rw [← nodup_renderings_iff named.texts lists, ← checkClashes_eq_ok id, build_eq hm]
  constructor
  · rintro ⟨n, h⟩
    obtain ⟨_, clashes, _⟩ := map_eq_ok.1 h
    exact clashes
  · intro clashes
    exact ⟨m, map_eq_ok.2 ⟨(), clashes, rfl⟩⟩

/-- The only fault is a collision. -/
theorem build_error {c : Config} {d : Datamodel} {f : Fault} (named : d.Named)
    (h : build c d = .error f) : ∃ rendered raws, f = .collision rendered raws := by
  obtain ⟨m, hm, lists⟩ := ofDatamodel_lists named.texts c
  rw [build_eq hm] at h
  cases hc : checkClashes id m.renderings with
  | ok u => rw [hc] at h; cases h
  | error g =>
      rw [hc] at h
      cases h
      refine checkClashes_error (fun e he => ?_) hc
      obtain ⟨x, hx, rfl⟩ := List.mem_map.1 he
      obtain ⟨p, _, hp⟩ := List.mem_flatMap.1 hx
      exact (lists p).raw_isText hp

/-! ## What is found in a naming -/

namespace Renders

variable {n : Naming} {c : Config} {d : Datamodel}

theorem apart (h : n.Renders c d) (named : d.Named) : d.Apart c :=
  (nodup_renderings_iff named.texts h.lists).1 h.nodup

/-- A rendered name belongs to one name of one part. -/
theorem rendered_inj (h : n.Renders c d) (named : d.Named) {p q : Part} {v w : Value}
    (hv : v ∈ d.names p) (hw : w ∈ d.names q) (same : c.rendered p v = c.rendered q w) :
    p = q ∧ v = w := by
  have hpq := h.apart named p q v hv w hw same
  subst hpq
  obtain ⟨s, rfl⟩ := named.texts p v hv
  obtain ⟨t, rfl⟩ := named.texts p w hw
  exact ⟨rfl, by rw [affixed_inj same]⟩

theorem get_eq_some (h : n.Renders c d) (named : d.Named) {p : Part} {v : Value} {r : String} :
    (n.part p).get v = .ok (some r) ↔ v ∈ d.names p ∧ r = c.rendered p v :=
  (h.lists p).get_eq_some (named.texts p)

theorem get_eq_none (h : n.Renders c d) (named : d.Named) {p : Part} {v : Value} {k : Key}
    (hk : v.key = .ok k) (hv : v ∉ d.names p) : (n.part p).get v = .ok none :=
  (h.lists p).get_eq_none (named.texts p) hk hv

/-- A rendered name has something to show. -/
theorem rendered_ne_empty (named : d.Named) {p : Part} {v : Value} (hv : v ∈ d.names p) :
    c.rendered p v ≠ "" := affixed_ne_empty (named p v hv)

/-- Under a name of any part, a part has nothing to show exactly if it is no name of its own. -/
theorem get_none_or_empty_iff (h : n.Renders c d) (named : d.Named) {p q : Part} {v : Value}
    (hv : v ∈ d.names q) :
    ((n.part p).get v = .ok none ∨ (n.part p).get v = .ok (some "")) ↔ v ∉ d.names p := by
  constructor
  · rintro (hn | he) hp
    · cases hn.symm.trans ((h.get_eq_some named).2 ⟨hp, rfl⟩)
    · exact rendered_ne_empty named hp ((h.get_eq_some named).1 he).2.symm
  · intro hp
    obtain ⟨s, rfl⟩ := named.texts q v hv
    exact Or.inl (h.get_eq_none named (Value.key_str s) hp)

/-- Looking up what a raw name refers to finds what it refers to. -/
theorem resolve_eq_some (h : n.Renders c d) (named : d.Named) {v : Value} {r : Reference} :
    n.resolve v = .ok (some r) ↔ d.Refers c v r := by
  constructor
  · intro hr
    cases r with
    | composite name =>
        obtain ⟨hc, _⟩ := resolve_eq_composite.1 hr
        obtain ⟨hv, rfl⟩ := (h.get_eq_some named (p := .types)).1 hc
        exact .composite hv
    | model name =>
        obtain ⟨hc, hm, _⟩ := resolve_eq_model.1 hr
        obtain ⟨hw, rfl⟩ := (h.get_eq_some named (p := .models)).1 hm
        exact .model ((h.get_none_or_empty_iff named (p := .types) hw).1 hc) hw
  · intro hr
    cases hr with
    | composite hv =>
        exact resolve_eq_composite.2
          ⟨(h.get_eq_some named (p := .types)).2 ⟨hv, rfl⟩, rendered_ne_empty named hv⟩
    | model hv hw =>
        exact resolve_eq_model.2 ⟨(h.get_none_or_empty_iff named (p := .types) hw).2 hv,
          (h.get_eq_some named (p := .models)).2 ⟨hw, rfl⟩, rendered_ne_empty named hw⟩

theorem enumName_eq_ok (h : n.Renders c d) (named : d.Named) {v : Value} {r : String} :
    n.enumName v = .ok r ↔ v ∈ d.names .enums ∧ r = c.rendered .enums v := by
  rw [Naming.enumName_eq_ok, ← h.get_eq_some named (p := .enums)]
  constructor
  · exact And.left
  · intro he
    obtain ⟨hv, rfl⟩ := (h.get_eq_some named (p := .enums)).1 he
    exact ⟨he, rendered_ne_empty named hv⟩

/-- A declaration has the name of a model, or else that of a composite type. -/
theorem declarationName_eq_ok (h : n.Renders c d) (named : d.Named) {v : Value} {r : String} :
    n.declarationName v = .ok r ↔
      (v ∈ d.names .models ∧ r = c.rendered .models v) ∨
        (v ∉ d.names .models ∧ v ∈ d.names .types ∧ r = c.rendered .types v) := by
  rw [Naming.declarationName_eq_ok]
  constructor
  · rintro (⟨hm, _⟩ | ⟨hm, ht⟩)
    · exact Or.inl ((h.get_eq_some named (p := .models)).1 hm)
    · obtain ⟨hw, rfl⟩ := (h.get_eq_some named (p := .types)).1 ht
      exact Or.inr ⟨(h.get_none_or_empty_iff named (p := .models) hw).1 hm, hw, rfl⟩
  · rintro (⟨hv, rfl⟩ | ⟨hv, hw, rfl⟩)
    · exact Or.inl ⟨(h.get_eq_some named (p := .models)).2 ⟨hv, rfl⟩, rendered_ne_empty named hv⟩
    · exact Or.inr ⟨(h.get_none_or_empty_iff named (p := .models) hw).2 hv,
        (h.get_eq_some named (p := .types)).2 ⟨hw, rfl⟩⟩

end Renders

end Naming

end Typewright
