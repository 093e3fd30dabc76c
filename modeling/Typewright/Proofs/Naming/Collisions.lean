import Mathlib.Data.List.Permutation
import Typewright.Proofs.Naming.Lookup

/-!
# Collisions of names

An *entry* of a data model is a raw name together with its part. Entries are rendered between the
affixes of their part, and a rendered name is *shared* if it is that of several entries. Within a
part the affixes are the same, so that entries which share a name are of different parts.

`build_collides` says when a naming is refused, and what is told about it. It is refused exactly if
some name is shared. What is told is the shared name that comes first in the data model, with the
raw names of all entries that share it in ascending order. `build` looks at name maps, which list
every name once, and not at the data model, where names may come again; but a name that comes again
is not the first one with any property (`NameMap.find?_rendered`).
-/

namespace Typewright

/-! ## Entries of a data model -/

namespace Datamodel

/-- The raw names with their parts: models, enums, composite types. -/
def entries (d : Datamodel) : List (Part × Value) :=
  Part.all.flatMap fun p => (d.names p).map fun v => (p, v)

/-- Several entries render to a name. -/
def Shared (c : Config) (d : Datamodel) (r : String) : Prop :=
  ∃ e ∈ d.entries, ∃ f ∈ d.entries, e ≠ f ∧ c.rendered e.1 e.2 = r ∧ c.rendered f.1 f.2 = r

/-- A name is shared, and none that comes before it is. -/
def FirstShared (c : Config) (d : Datamodel) (r : String) : Prop :=
  d.Shared c r ∧ ∃ before e after, d.entries = before ++ e :: after ∧ c.rendered e.1 e.2 = r ∧
    ∀ f ∈ before, ¬ d.Shared c (c.rendered f.1 f.2)

/-- The raw names of the entries that render to a name, one for each, in ascending order. -/
structure RawNames (c : Config) (d : Datamodel) (r : String) (raws : List String) : Prop where
  ascending : raws.Pairwise (· ≤ ·)
  /-- They are those of the entries that render to the name. -/
  complete : ∃ es : List (Part × Value), es.Nodup ∧
    (∀ e, e ∈ es ↔ e ∈ d.entries ∧ c.rendered e.1 e.2 = r) ∧ (raws.map .str).Perm (es.map (·.2))

theorem mem_entries {d : Datamodel} {p : Part} {v : Value} :
    (p, v) ∈ d.entries ↔ v ∈ d.names p := by
  constructor
  · intro h
    obtain ⟨q, _, hq⟩ := List.mem_flatMap.1 h
    obtain ⟨w, hw, same⟩ := List.mem_map.1 hq
    cases same
    exact hw
  · intro h
    exact List.mem_flatMap.2 ⟨p, Part.mem_all p, List.mem_map_of_mem h⟩

/-- Entries that share a name are of different parts. -/
theorem part_ne_of_rendered_eq {c : Config} {d : Datamodel} (texts : d.Texts) {e f : Part × Value}
    (he : e ∈ d.entries) (hf : f ∈ d.entries) (hne : e ≠ f)
    (same : c.rendered e.1 e.2 = c.rendered f.1 f.2) : e.1 ≠ f.1 := by
  obtain ⟨p, v⟩ := e
  obtain ⟨q, w⟩ := f
  rintro rfl
  obtain ⟨s, rfl⟩ := texts p v (mem_entries.1 he)
  obtain ⟨t, rfl⟩ := texts p w (mem_entries.1 hf)
  exact hne (by rw [affixed_inj same])

end Datamodel

/-! ## Entries that render to one name -/

namespace Naming

/-- The raw names under one rendered name, with their parts. -/
def sharing (n : Naming) (r : String) : List (Part × Value) :=
  Part.all.flatMap fun p => ((n.part p).filter (·.rendered == r)).map fun e => (p, e.raw)

theorem map_sharing (n : Naming) (r : String) :
    (n.sharing r).map (·.2) = owners n.renderings r := by
  rw [owners, renderings, entries, List.filter_map, List.map_map, List.filter_flatMap,
    List.map_flatMap, sharing, List.map_flatMap]
  simp only [List.map_map]
  rfl

section Sharing

variable {n : Naming} {c : Config} {d : Datamodel}
  (lists : ∀ p, (n.part p).Lists (d.names p) (c.value p.before) (c.value p.after))

include lists

theorem mem_sharing (texts : d.Texts) {r : String} {e : Part × Value} :
    e ∈ n.sharing r ↔ e ∈ d.entries ∧ c.rendered e.1 e.2 = r := by
  obtain ⟨p, v⟩ := e
  rw [Datamodel.mem_entries, sharing, List.mem_flatMap]
  constructor
  · rintro ⟨q, _, hq⟩
    obtain ⟨x, hx, same⟩ := List.mem_map.1 hq
    cases same
    obtain ⟨hx, hr⟩ := List.mem_filter.1 hx
    obtain ⟨s, hs, rfl⟩ := ((lists p).mem_iff x).1 hx
    exact ⟨hs, eq_of_beq hr⟩
  · rintro ⟨hv, rfl⟩
    obtain ⟨s, rfl⟩ := texts p v hv
    have hx : NameMap.textEntry (c.value p.before) (c.value p.after) s ∈ n.part p :=
      ((lists p).mem_iff _).2 ⟨s, hv, rfl⟩
    exact ⟨p, Part.mem_all p, List.mem_map.2 ⟨_, List.mem_filter.2 ⟨hx, beq_self_eq_true _⟩, rfl⟩⟩

theorem nodup_sharing (r : String) : (n.sharing r).Nodup := by
  rw [sharing, List.nodup_flatMap]
  constructor
  · intro p _
    have nodup : ((n.part p).filter (·.rendered == r)).Nodup :=
      (List.Nodup.of_map _ (lists p).nodup).filter _
    refine nodup.map_on fun x hx y hy same => ?_
    obtain ⟨s, _, rfl⟩ := ((lists p).mem_iff x).1 (List.mem_of_mem_filter hx)
    obtain ⟨t, _, rfl⟩ := ((lists p).mem_iff y).1 (List.mem_of_mem_filter hy)
    cases same
    rfl
  · refine List.Nodup.pairwise_of_forall_ne (by decide) fun p _ q _ hpq e hp hq => ?_
    obtain ⟨_, _, rfl⟩ := List.mem_map.1 hp
    obtain ⟨_, _, same⟩ := List.mem_map.1 hq
    exact hpq (congrArg Prod.fst same).symm

/-- A name is shared if it has several raw names. -/
theorem shared_iff (texts : d.Texts) {r : String} :
    d.Shared c r ↔ 1 < (owners n.renderings r).length := by
  have nodup := nodup_sharing lists r
  have mem (e : Part × Value) := mem_sharing lists texts (r := r) (e := e)
  rw [← map_sharing, List.length_map]
  constructor
  · rintro ⟨e, he, f, hf, hne, her, hfr⟩
    have he := (mem e).2 ⟨he, her⟩
    have hf := (mem f).2 ⟨hf, hfr⟩
    match hs : n.sharing r with
    | [] => rw [hs] at he; cases he
    | [a] =>
        rw [hs] at he hf
        exact absurd ((List.mem_singleton.1 he).trans (List.mem_singleton.1 hf).symm) hne
    | a :: b :: rest => simp
  · intro several
    match hs : n.sharing r with
    | [] => rw [hs] at several; cases several
    | [a] => rw [hs] at several; exact absurd several (Nat.lt_irrefl 1)
    | a :: b :: rest =>
        rw [hs, List.nodup_cons, List.mem_cons, not_or] at nodup
        obtain ⟨ha, har⟩ := (mem a).1 (by rw [hs]; exact List.mem_cons_self)
        obtain ⟨hb, hbr⟩ := (mem b).1 (by rw [hs]; exact List.mem_cons_of_mem _ List.mem_cons_self)
        exact ⟨a, ha, b, hb, nodup.1.1, har, hbr⟩

end Sharing

/-! ## Refused namings -/

/-- The first rendered name with some property is the same in a naming and in its data model. -/
theorem find?_renderings {n : Naming} {c : Config} {d : Datamodel} (texts : d.Texts)
    (h : ofDatamodel c d = .ok n) (q : String → Bool) :
    (n.renderings.map (·.1)).find? q = (d.entries.map fun e => c.rendered e.1 e.2).find? q := by
  rw [map_renderings, Datamodel.entries, List.map_flatMap, List.find?_flatMap, List.find?_flatMap]
  congr
  funext p
  rw [NameMap.find?_rendered (texts p) (ofDatamodel_eq_ok h p), List.map_map]
  rfl

/-- A name with several raw names of which no other comes before it is the first that is shared. -/
theorem firstShared_of_clash {n : Naming} {c : Config} {d : Datamodel} (texts : d.Texts)
    (h : ofDatamodel c d = .ok n)
    (lists : ∀ p, (n.part p).Lists (d.names p) (c.value p.before) (c.value p.after)) {r : String}
    {raws : List Value} (clash : clash? n.renderings = some (r, raws)) :
    d.FirstShared c r ∧ raws = owners n.renderings r := by
  rw [clash?_eq_map_find?, find?_renderings texts h, Option.map_eq_some_iff] at clash
  obtain ⟨_, first, same⟩ := clash
  cases same
  rw [List.find?_map, Option.map_eq_some_iff] at first
  obtain ⟨e, first, rfl⟩ := first
  obtain ⟨several, before, after, split, unshared⟩ := List.find?_eq_some_iff_append.1 first
  refine ⟨⟨(shared_iff lists texts).2 (of_decide_eq_true several), before, e, after, split, rfl,
    fun f hf shared => ?_⟩, rfl⟩
  have several := decide_eq_true ((shared_iff lists texts).1 shared)
  have one := unshared f hf
  rw [Function.comp_apply, several] at one
  exact Bool.false_ne_true one

/-- A naming that is not made is refused for the first shared name, with its raw names. -/
theorem build_error_cases {c : Config} {d : Datamodel} {f : Fault} (texts : d.Texts)
    (h : build c d = .error f) :
    ∃ r raws, f = .collision r raws ∧ d.FirstShared c r ∧ d.RawNames c r raws := by
  obtain ⟨n, hn, lists⟩ := ofDatamodel_lists texts c
  rw [build_eq hn] at h
  cases hc : clash? n.renderings with
  | none =>
      rw [(checkClashes_eq_ok id).2 (clash?_eq_none_iff.1 hc)] at h
      cases h
  | some clash =>
      obtain ⟨r, owned⟩ := clash
      have raws : ∀ e ∈ n.renderings, e.2.IsText := by
        intro e he
        obtain ⟨x, hx, rfl⟩ := List.mem_map.1 he
        obtain ⟨p, _, hp⟩ := List.mem_flatMap.1 hx
        exact (lists p).raw_isText hp
      obtain ⟨ss, rfl, refused⟩ := checkClashes_of_clash id raws hc
      rw [refused] at h
      cases h
      obtain ⟨first, same⟩ := firstShared_of_clash texts hn lists hc
      refine ⟨r, _, rfl, first, ?_, n.sharing r, nodup_sharing lists r,
        fun e => mem_sharing lists texts, ?_⟩
      · exact pairwise_sorted ss
      · rw [map_sharing, ← same]
        exact (List.mergeSort_perm _ _).map _

/-- A naming that is made shares no name. -/
theorem Renders.not_shared {n : Naming} {c : Config} {d : Datamodel} (h : n.Renders c d)
    (texts : d.Texts) (r : String) : ¬ d.Shared c r := by
  rw [shared_iff h.lists texts, length_owners, Nat.not_lt]
  exact List.nodup_iff_count_le_one.1 h.nodup r

/-- A naming is refused exactly if a name is shared, which entries of different parts do. What is
told is the first shared name with its raw names. A naming that is not refused has the names of
each part, each under its rendered name, and no two under one. -/
theorem build_collides {c : Config} {d : Datamodel} (texts : d.Texts) :
    ((∃ r raws, build c d = .error (.collision r raws)) ↔ ∃ r, d.Shared c r) ∧
      (∀ e ∈ d.entries, ∀ f ∈ d.entries, e ≠ f → c.rendered e.1 e.2 = c.rendered f.1 f.2 →
        e.1 ≠ f.1) ∧
      (∀ f, build c d = .error f →
        ∃ r raws, f = .collision r raws ∧ d.FirstShared c r ∧ d.RawNames c r raws) ∧
      ∀ n, build c d = .ok n → (∀ p v, v ∈ (n.part p).map (·.raw) ↔ v ∈ d.names p) ∧
        (∀ p, ∀ e ∈ n.part p, e.rendered = c.rendered p e.raw) ∧
        (n.entries.map (·.rendered)).Nodup := by
  refine ⟨⟨?_, ?_⟩, fun e he f hf => Datamodel.part_ne_of_rendered_eq texts he hf,
    fun f h => build_error_cases texts h, fun n h => ?_⟩
  · rintro ⟨r, raws, h⟩
    obtain ⟨_, _, _, first, _⟩ := build_error_cases texts h
    exact ⟨_, first.1⟩
  · rintro ⟨r, shared⟩
    cases h : build c d with
    | ok n => exact absurd shared ((renders_of_texts texts h).not_shared texts r)
    | error f =>
        obtain ⟨r, raws, rfl, _⟩ := build_error_cases texts h
        exact ⟨r, raws, rfl⟩
  · have renders := renders_of_texts texts h
    refine ⟨fun p v => (renders.lists p).mem_raw (texts p),
      fun p e he => (renders.lists p).rendered_eq he, ?_⟩
    have nodup := renders.nodup
    rwa [renderings, List.map_map] at nodup

/-! ## A collision -/

/-- A model or composite type without fields. -/
def fieldless (name : String) : Model where
  name := .str name
  fields := []
  dbName := .null
  documentation := .null

/-- A data model in which several parts have the same names. -/
def crowd : Datamodel where
  models := [fieldless "Posts", fieldless "Users", fieldless "Users", fieldless "Tags"]
  enums := [{ name := .str "Tags", values := [], documentation := .null },
    { name := .str "Users", values := [], documentation := .null }]
  types := [fieldless "Tag", fieldless "User"]

/-- A configuration in which composite types get a letter more. -/
def plural : Config := Config.default.set .typeSuffix (.str "s")

/-- Users are a model, an enum and a composite type, and come before tags. -/
theorem crowd_build_collides :
    crowd.Texts ∧ build plural crowd = .error (.collision "Users" ["User", "Users", "Users"]) ∧
      crowd.Shared plural "Users" ∧ crowd.Shared plural "Tags" ∧
      crowd.FirstShared plural "Users" ∧
      crowd.RawNames plural "Users" ["User", "Users", "Users"] := by
  have texts : crowd.Texts := by
    intro p v hv
    have text : ∀ p, ∀ v ∈ crowd.names p, ∃ s, v = .str s := by
      intro p
      cases p <;> simp [crowd, fieldless, Datamodel.names]
    exact text p v hv
  have refused : build plural crowd = .error (.collision "Users" ["User", "Users", "Users"]) := by
    cbv
  have tags : crowd.Shared plural "Tags" :=
    ⟨(.models, .str "Tags"), Datamodel.mem_entries.2 (by simp [crowd, fieldless, Datamodel.names]),
      (.types, .str "Tag"), Datamodel.mem_entries.2 (by simp [crowd, fieldless, Datamodel.names]),
      by simp, rfl, rfl⟩
  obtain ⟨r, raws, same, first, owned⟩ := (build_collides texts).2.2.1 _ refused
  cases same
  exact ⟨texts, refused, first.1, tags, first, owned⟩

end Naming

end Typewright
