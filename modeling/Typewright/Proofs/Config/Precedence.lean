import Typewright.Config.File
import Typewright.Proofs.Config.Layers
import Typewright.Proofs.FileTree.Places
import Typewright.Proofs.Json.ReadBack

/-!
# Which layer gives a value

Two layers are put together name by name: the last entry of the upper layer whose name stands for a
name wins, or else the last such entry of the lower layer (`Entries.get?_putAll_canonical`). A
setting takes the value that is found for it, or its default, and a flag reads the two words for
truth values in any letter case (`Takes`). Where neither layer gives custom values as such, the
names that are no settings make up the custom values (`load_layered`).

Custom values that are given as such are put together differently. Those of the upper layer replace
those of the lower one as a whole, and the names of both layers that are no settings come on top of
them (`load_objects`).
-/

namespace Typewright

/-! ## Layers of entries -/

namespace Entries

/-- The value of the last entry whose name stands for a name. -/
def last? (es : Entries) (name : String) : Option Value :=
  (es.reverse.find? fun e => Spelling.canonical e.1 == name).map Prod.snd

/-- The value for a name in two layers. The upper one wins. -/
def layered? (below top : Entries) (name : String) : Option Value :=
  (top.last? name).or (below.last? name)

theorem last?_eq_none_iff {es : Entries} {name : String} :
    es.last? name = none ↔ ∀ e ∈ es, Spelling.canonical e.1 ≠ name := by
  simp [last?]

theorem mem_of_last? {es : Entries} {name : String} {v : Value} (h : es.last? name = some v) :
    ∃ e ∈ es, Spelling.canonical e.1 = name ∧ e.2 = v := by
  obtain ⟨e, found, value⟩ := Option.map_eq_some_iff.1 h
  have spelled := List.find?_some found
  exact ⟨e, List.mem_reverse.1 (List.mem_of_find?_eq_some found), by simpa using spelled, value⟩

theorem get?_map_canonical (es : Entries) (name : String) :
    get? (es.map fun e => (Spelling.canonical e.1, e.2)) name =
      (es.find? fun e => Spelling.canonical e.1 == name).map Prod.snd := by
  induction es with
  | nil => rfl
  | cons e rest ih =>
      rw [List.map_cons, get?_cons, ih, List.find?_cons]
      by_cases here : Spelling.canonical e.1 = name
      · simp [here]
      · have other : (Spelling.canonical e.1 == name) = false := by simp [here]
        rw [other, if_neg (Ne.symm here)]

theorem get?_canonical (es : Entries) (name : String) : es.canonical.get? name = es.last? name := by
  rw [canonical, get?_putAll, get?_nil, Option.or_none, ← List.map_reverse, get?_map_canonical,
    last?]

theorem get?_putAll_canonical (below top : Entries) (name : String) :
    (putAll below.canonical top.canonical).get? name = layered? below top name := by
  rw [get?_putAll, get?_reverse (nodup_canonical top), get?_canonical, get?_canonical, layered?]

/-- The custom values that entries give as such. -/
def explicit (es : Entries) : Entries :=
  match es.last? Setting.customName with
  | some (.object fs) => fs
  | _ => []

theorem explicit_of_none {es : Entries} (h : es.last? Setting.customName = none) :
    es.explicit = [] := by
  rw [explicit, h]

end Entries

namespace Config

open Entries (layered?)

/-! ## How a setting takes a value -/

/-- A setting takes a value as it is, but a flag takes the words for the two truth values, in any
letter case, as truth values. -/
inductive Takes (s : Setting) : Value → Value → Prop where
  | yes {text : String} (flag : s.isFlag = true) (word : Text.IsWordInAnyCase "true" text) :
      Takes s (.str text) (.bool true)
  | no {text : String} (flag : s.isFlag = true) (word : Text.IsWordInAnyCase "false" text) :
      Takes s (.str text) (.bool false)
  | kept {v : Value} (other : s.isFlag = true → ∀ text, v = .str text →
      ¬ Text.IsWordInAnyCase "true" text ∧ ¬ Text.IsWordInAnyCase "false" text) : Takes s v v

theorem takes_accept (s : Setting) (v : Value) : Takes s v (accept s v) := by
  rw [accept]
  split
  next flag =>
    cases v with
    | str text =>
        have yes := Text.lower_eq_iff (by decide : Text.isPlainWord "true" = true) text
        have no := Text.lower_eq_iff (by decide : Text.isPlainWord "false" = true) text
        rw [readFlag]
        split
        next small => exact .yes flag (yes.1 small)
        next notYes =>
          split
          next small => exact .no flag (no.1 small)
          next notNo =>
            refine .kept fun _ _ same => ?_
            cases same
            exact ⟨fun word => notYes (yes.2 word), fun word => notNo (no.2 word)⟩
    | _ =>
        refine .kept fun _ _ same => ?_
        cases same
  next unflagged => exact .kept fun flag => absurd flag unflagged

/-! ## Loading two layers -/

/-- Whether a JSON file holds the given entries. -/
structure Holds (reader : Json.Reader) (t : FileTree) (directory : Place) (file : String)
    (es : Entries) : Prop where
  /-- A file is named. -/
  named : file ≠ ""
  /-- There is such a file. -/
  found : t.pathExists reader.halves directory (Path.ofString file) = .ok true
  /-- It has the suffix of JSON. -/
  suffix : Text.lower (Path.ofString file).suffix = ".json"
  /-- It is the text of an object with the entries. -/
  content : ∃ octets, t.read directory (Path.ofString file) = .ok octets ∧
    Json.ofOctets reader octets = .ok (.object es)

variable {reader : Json.Reader} {t : FileTree} {directory : Place} {file : String}
  {below top : Entries}

theorem Holds.load_eq (h : Holds reader t directory file below) :
    load reader t directory file (.object top) =
      ofMisuse (ofEntries (Entries.putAll below.canonical top.canonical)) := by
  obtain ⟨octets, read, parsed⟩ := h.content
  have entries : readFile reader t directory (Path.ofString file) = .ok below := by
    rw [readFile, h.found]
    dsimp only
    rw [if_neg (not_not_intro h.suffix), read]
    dsimp only
    rw [parsed]
  rw [load, if_neg h.named, entries, ok_bind]
  exact congrArg ofMisuse (ofLayers_object below top)

/-- A file that entries are written to holds them. -/
theorem Holds.of_write {before : FileTree} (named : file ≠ "")
    (sound : (Path.ofString file).misuse? reader.halves = none)
    (suffix : Text.lower (Path.ofString file).suffix = ".json")
    (written : before.write directory (Path.ofString file)
      (Text.encode (Json.indented (.object below))) = .ok t)
    (readsBack : Json.ReadsBack reader (.object below)) : Holds reader t directory file below where
  named := named
  found := by
    rw [FileTree.pathExists, sound, Option.isSome_none, if_neg Bool.false_ne_true,
      FileTree.lookup_of_write written]
  suffix := suffix
  content := ⟨_, FileTree.read_of_write written, readsBack⟩

theorem exists_holds (es : Entries)
    (storable : Json.Storable Json.Reader.usual.depth (.object es)) :
    ∃ t, Holds .usual t [] "c.json" es := by
  have written : FileTree.empty.write [] (Path.ofString "c.json")
      (Text.encode (Json.indented (.object es))) = .ok _ := rfl
  exact ⟨_, .of_write (by decide) (by decide +kernel) (by decide +kernel) written
    storable.readsBack⟩

/-- The custom values that are given as such in two layers: those of the upper layer, if it gives
any, even if that is none at all. -/
def explicitIn (below top : Entries) : Entries :=
  if (top.last? Setting.customName).isSome then top.explicit else below.explicit

/-- Whether entries give custom values as such only as objects. -/
def GivesObjects (es : Entries) : Prop :=
  ∀ v, es.last? Setting.customName = some v → ∃ fs, v = .object fs

theorem orElse_explicitIn (objects_below : GivesObjects below) (objects_top : GivesObjects top) :
    ((layered? below top Setting.customName).getD .null).orElse (.object []) =
      .object (explicitIn below top) := by
  have given {es : Entries} (objects : GivesObjects es) {v : Value}
      (h : es.last? Setting.customName = some v) : v.orElse (.object []) = .object es.explicit := by
    obtain ⟨fs, rfl⟩ := objects v h
    rw [Entries.explicit, h]
    cases fs with
    | nil => rfl
    | cons e fs => rfl
  rw [layered?, explicitIn]
  cases upper : top.last? Setting.customName with
  | some v => exact given objects_top upper
  | none =>
      cases lower : below.last? Setting.customName with
      | some v => exact given objects_below lower
      | none =>
          rw [Option.isSome_none, if_neg Bool.false_ne_true, Entries.explicit_of_none lower]
          rfl

/-- The custom values of two layers: what is given as such, and on top of it what is no setting. -/
def extrasIn (below top : Entries) : Entries :=
  (explicitIn below top).putAll
    ((Entries.putAll below.canonical top.canonical).filter fun e => isCustomName e.1)

theorem get?_extrasIn (below top : Entries) (name : String) :
    (extrasIn below top).get? name =
      (if isCustomName name then layered? below top name else none).or
        ((explicitIn below top).get? name) := by
  have nodup : ((Entries.putAll below.canonical top.canonical).map Prod.fst).Nodup :=
    Entries.nodup_putAll (Entries.nodup_canonical below)
  rw [extrasIn, Entries.get?_putAll, Entries.get?_reverse, Entries.get?_filter,
    Entries.get?_putAll_canonical]
  exact nodup.sublist (List.filter_sublist.map Prod.fst)

/-- Two layers that give custom values as such only as objects make a configuration. -/
theorem load_objects (holds : Holds reader t directory file below) (objects_below : GivesObjects below)
    (objects_top : GivesObjects top) :
    load reader t directory file (.object top) = .ok
      { value := fun s => accept s ((layered? below top s.name).getD s.default)
        custom := .table (.ofEntries (extrasIn below top)) } := by
  have explicit := orElse_explicitIn objects_below objects_top
  rw [← Entries.get?_putAll_canonical, ← Entries.getD] at explicit
  rw [holds.load_eq, ofEntries_of_object explicit, ofMisuse]
  simp only [Entries.getD, Entries.get?_putAll_canonical]
  rfl

/-! ## Layers without custom values as such -/

/-- Each setting takes the value of the last entry of the upper layer that stands for it, or else of
the lower layer, or else its default. The other names of the two layers are the custom values. -/
theorem load_layered (holds : Holds reader t directory file below)
    (flat : ∀ e ∈ below ++ top, Spelling.canonical e.1 ≠ Setting.customName) :
    ∃ c extras, load reader t directory file (.object top) = .ok c ∧
      (∀ s, Takes s ((layered? below top s.name).getD s.default) (c.value s)) ∧
      c.custom = .table (.ofEntries extras) ∧ (extras.map Prod.fst).Nodup ∧
      ∀ name, extras.get? name =
        if (Setting.ofName? name).isSome then none else layered? below top name := by
  rw [List.forall_mem_append] at flat
  have none_below := Entries.last?_eq_none_iff.2 flat.1
  have none_top := Entries.last?_eq_none_iff.2 flat.2
  have objects {es : Entries} (none : es.last? Setting.customName = none) : GivesObjects es := by
    intro v given
    rw [none] at given
    cases given
  have nothing : explicitIn below top = [] := by
    rw [explicitIn, none_top, Option.isSome_none, if_neg Bool.false_ne_true,
      Entries.explicit_of_none none_below]
  refine ⟨_, _, load_objects holds (objects none_below) (objects none_top),
    fun s => takes_accept s _, rfl, ?_, fun name => ?_⟩
  · rw [extrasIn, nothing]
    exact Entries.nodup_putAll List.nodup_nil
  · rw [get?_extrasIn, nothing, Entries.get?_nil, Option.or_none, isCustomName]
    by_cases custom : name = Setting.customName
    · rw [custom, layered?, none_below, none_top]
      simp
    · cases Setting.ofName? name with
      | none => simp [custom]
      | some s => simp

/-- The last of two spellings wins in the upper layer, and the lower layer gives a flag in capitals
and a name that is no setting. -/
theorem load_layered_of_team : ∃ t c extras,
    Holds .usual t [] "c.json"
      [("modelType", .str "type"), ("optional_relations", .str "FALSE"), ("team", .str "core")] ∧
    load .usual t [] "c.json" (.object [("modelType", .str "class"), ("model_type", .str "interface")]) =
      .ok c ∧
    Takes .modelType (.str "interface") (c.value .modelType) ∧
    Takes .optionalRelations (.str "FALSE") (c.value .optionalRelations) ∧
    c.custom = .table (.ofEntries extras) ∧ extras.get? "team" = some (.str "core") := by
  obtain ⟨t, holds⟩ := exists_holds
    [("modelType", .str "type"), ("optional_relations", .str "FALSE"), ("team", .str "core")]
    (by decide +kernel)
  have flat : ∀ e ∈ [("modelType", .str "type"), ("optional_relations", .str "FALSE"),
      ("team", .str "core")] ++ [("modelType", Value.str "class"), ("model_type", .str "interface")],
      Spelling.canonical e.1 ≠ Setting.customName := by
    decide +kernel
  obtain ⟨c, extras, loaded, taken, custom, _, rest⟩ := load_layered holds flat
  exact ⟨t, c, extras, holds, loaded, taken .modelType, taken .optionalRelations, custom,
    rest "team"⟩

end Config

end Typewright
