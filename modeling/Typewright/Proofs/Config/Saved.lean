import Typewright.Config.File
import Typewright.Proofs.Config.Layers
import Typewright.Proofs.FileTree.Places
import Typewright.Proofs.Json.ReadBack

/-!
# Saving a configuration and loading it again

A saved configuration lists its custom values among the settings, and loading tells the two apart
by their names again, in canonical spelling. So a custom value stays what it is only under a name
that is canonical and belongs to nothing else (`KeepsName`).

If all custom values have such names, what is loaded is what was saved (`Settled.reloaded`). If
not, what is loaded is not even the same (`Settled.keepsName`). A custom value whose name is that of
a setting replaces the setting. One whose name stands for another name is found under that, since no
name stands for one that is not canonical. And if the name stands for that of the custom values
themselves, the value is read as a table of custom values: it would have to hold itself.
-/

namespace Typewright

/-! ## The same configuration -/

/-- Whether custom values are the same: tables have the same values under the same names. -/
def Custom.Same : Custom → Custom → Prop
  | .table t, .table t' => t.length = t'.length ∧
      ∀ e ∈ t, ∃ e' ∈ t', e.1.key? = e'.1.key? ∧ e.2.same e'.2 = true
  | .other v, .other w => v.same w = true
  | _, _ => False

/-- Whether a configuration has the same values as another one. -/
structure Config.Same (c c' : Config) : Prop where
  /-- The settings have the same values. -/
  value : ∀ s, (c.value s).same (c'.value s) = true
  /-- The custom values are the same. -/
  custom : c.custom.Same c'.custom

/-- Whether a name is canonical, and neither that of a setting nor that of the custom values. -/
def KeepsName (name : String) : Prop :=
  Spelling.canonical name = name ∧ Setting.ofName? name = none ∧ name ≠ Setting.customName

instance : DecidablePred KeepsName := fun _ => inferInstanceAs (Decidable (_ ∧ _))

/-- Whether all custom values stand under names that they keep. -/
def Custom.KeepsNames : Custom → Prop
  | .table t => ∀ e ∈ t, ∃ name, e.1 = .str name ∧ KeepsName name
  | .other _ => False

instance (v : Value) : Decidable (∃ name, v = .str name ∧ KeepsName name) :=
  match v with
  | .str name => decidable_of_iff (KeepsName name) (by simp)
  | .null | .bool _ | .int _ | .double _ | .list _ | .object _ => isFalse (by simp)

instance : DecidablePred Custom.KeepsNames
  | .table t => inferInstanceAs (Decidable (∀ e ∈ t, ∃ name, e.1 = .str name ∧ KeepsName name))
  | .other _ => instDecidableFalse

namespace Config

/-- What is saved of a settled configuration with the given custom values. -/
def savedEntries (c : Config) (extras : Entries) : Entries := c.settingEntries.putAll extras

variable {c c' : Config} {extras : Entries}

namespace Settled

theorem keepsNames_iff (h : c.Settled extras) :
    c.custom.KeepsNames ↔ ∀ e ∈ extras, KeepsName e.1 := by
  rw [h.custom_eq, Custom.KeepsNames, Table.ofEntries, List.forall_mem_map]
  refine forall₂_congr fun e _ => ?_
  simp

theorem savedTable (h : c.Settled extras) :
    c.savedTable = .ok (.ofEntries (c.savedEntries extras)) := by
  have table : c.custom.toTable = .ok (.ofEntries extras) := by
    rw [h.custom_eq]
    rfl
  rw [Config.savedTable, table, ok_bind, Table.putAll_ofEntries]
  rfl

theorem same_self (h : c.Settled extras) : c.Same c := by
  refine ⟨fun s => (h.plain s).same_self, ?_⟩
  rw [h.custom_eq]
  refine ⟨rfl, fun e he => ⟨e, he, rfl, ?_⟩⟩
  obtain ⟨f, hf, rfl⟩ := List.mem_map.1 he
  exact (h.plain_extras f hf).same_self

/-! ## Names that are kept -/

/-- Where all names are kept, the custom values come after the settings. -/
theorem savedEntries_eq (h : c.Settled extras) (keeps : ∀ e ∈ extras, KeepsName e.1) :
    c.savedEntries extras = c.settingEntries ++ extras ∧
      ((c.settingEntries ++ extras).map Prod.fst).Nodup := by
  have nodup : ((c.settingEntries ++ extras).map Prod.fst).Nodup := by
    rw [List.map_append]
    refine List.nodup_append'.2 ⟨c.nodup_settingEntries, h.nodup, fun name setting extra => ?_⟩
    obtain ⟨s, rfl⟩ := c.mem_settingEntries.1 setting
    obtain ⟨e, he, name⟩ := List.mem_map.1 extra
    have unknown := (keeps e he).2.1
    rw [name, s.ofName?_name] at unknown
    cases unknown
  exact ⟨Entries.putAll_eq_append nodup, nodup⟩

theorem reloaded (h : c.Settled extras) (keeps : ∀ e ∈ extras, KeepsName e.1) :
    ofLayers (c.savedEntries extras) .null = .ok c := by
  obtain ⟨saved, nodup⟩ := h.savedEntries_eq keeps
  have canonical : (c.settingEntries ++ extras).canonical = c.settingEntries ++ extras := by
    refine Entries.canonical_eq_self nodup fun e he => ?_
    cases List.mem_append.1 he with
    | inl setting =>
        obtain ⟨s, hs⟩ := c.mem_settingEntries.1 (List.mem_map_of_mem setting)
        rw [← hs, Spelling.canonical_name]
    | inr extra => exact (keeps e extra).1
  have explicit : (Entries.getD (c.settingEntries ++ extras) Setting.customName .null).orElse
      (.object []) = .object [] := by
    have absent : Entries.get? (c.settingEntries ++ extras) Setting.customName = none := by
      rw [Entries.get?_eq_none_iff, List.map_append, List.mem_append, not_or]
      refine ⟨fun setting => ?_, fun extra => ?_⟩
      · obtain ⟨s, hs⟩ := c.mem_settingEntries.1 setting
        exact name_ne_customName s hs
      · obtain ⟨e, he, name⟩ := List.mem_map.1 extra
        exact (keeps e he).2.2 name
    rw [Entries.getD, absent]
    rfl
  have value (s : Setting) :
      accept s (Entries.getD (c.settingEntries ++ extras) s.name s.default) = c.value s := by
    rw [Entries.getD, Entries.get?_append, c.get?_settingEntries]
    exact h.accepted s
  have custom : (c.settingEntries ++ extras).filter (fun e => isCustomName e.1) = extras := by
    have settings : c.settingEntries.filter (fun e => isCustomName e.1) = [] := by
      refine List.filter_eq_nil_iff.2 fun e he => ?_
      obtain ⟨s, hs⟩ := c.mem_settingEntries.1 (List.mem_map_of_mem he)
      rw [← hs, isCustomName_name]
      exact Bool.false_ne_true
    rw [List.filter_append, settings, List.nil_append]
    exact List.filter_eq_self.2 fun e he => isCustomName_iff.2 (keeps e he).2
  rw [saved, ofLayers_null, canonical, ofEntries_of_object explicit, custom,
    Entries.putAll_nil h.nodup, ← h.custom_eq]
  exact congrArg (fun f => Except.ok (Config.mk f c.custom)) (funext value)

/-! ## Names that are not kept -/

/-- A saved entry whose name is that of no setting is a custom value. -/
theorem mem_extras (_ : c.Settled extras) {e : String × Value} (he : e ∈ c.savedEntries extras)
    (other : ∀ s : Setting, s.name ≠ e.1) : e ∈ extras := by
  refine (Entries.mem_putAll he).resolve_left fun setting => ?_
  obtain ⟨s, hs⟩ := c.mem_settingEntries.1 (List.mem_map_of_mem setting)
  exact other s hs

/-- If the same custom values are loaded, each of them is loaded either from the value of a custom
value whose name stands for that of the custom values, or under a canonical name. -/
theorem exists_loaded (h : c.Settled extras)
    (made : ofLayers (c.savedEntries extras) .null = .ok c') (same : c.Same c')
    {e : String × Value} (he : e ∈ extras) :
    (∃ explicit, Table.ofValue (((c.savedEntries extras).canonical.getD Setting.customName
          .null).orElse (.object [])) = .ok explicit ∧ ∃ f ∈ explicit, e.2.height ≤ f.2.height) ∨
      isCustomName e.1 = true ∧ ∃ f ∈ c.savedEntries extras, Spelling.canonical f.1 = e.1 := by
  rw [ofLayers_null, ofEntries] at made
  obtain ⟨explicit, hexplicit, made⟩ := bind_eq_ok.1 made
  cases pure_eq_ok.1 made
  have custom := same.custom
  rw [h.custom_eq] at custom
  obtain ⟨f, hf, key, value⟩ := custom.2 (.str e.1, e.2) (List.mem_map_of_mem he)
  cases Table.mem_putAll hf with
  | inl old => exact .inl ⟨explicit, hexplicit, f, old, Value.height_le_of_same value⟩
  | inr new =>
      obtain ⟨_, extra, name, _⟩ := new
      obtain ⟨g, kept, rfl⟩ := List.mem_map.1 extra
      obtain ⟨hg, isCustom⟩ := List.mem_filter.1 kept
      have named : g.1 = e.1 := by simpa using (key.trans name).symm
      obtain ⟨k, hk, canonical, _⟩ := Entries.mem_canonical hg
      exact .inr ⟨named ▸ isCustom, k, hk, canonical.trans named⟩

/-- If the same custom values are loaded, no name of one stands for that of the custom values: the
last value under such a name would have to be found in itself. -/
theorem canonical_ne_customName (h : c.Settled extras)
    (made : ofLayers (c.savedEntries extras) .null = .ok c') (same : c.Same c')
    {e : String × Value} (he : e ∈ extras) : Spelling.canonical e.1 ≠ Setting.customName := by
  intro custom
  have member : Setting.customName ∈ (c.savedEntries extras).canonical.map Prod.fst := by
    obtain ⟨f, hf, name⟩ := List.mem_map.1
      (Entries.mem_map_fst_putAll.2 (.inr (List.mem_map_of_mem he)) :
        e.1 ∈ (c.savedEntries extras).map Prod.fst)
    exact Entries.mem_map_fst_canonical.2 ⟨f, hf, name ▸ custom⟩
  obtain ⟨f, hf, name⟩ := List.mem_map.1 member
  have found : (c.savedEntries extras).canonical.get? Setting.customName = some f.2 :=
    name ▸ Entries.get?_of_mem (Entries.nodup_canonical _) hf
  obtain ⟨last, hlast, spelled, value⟩ := Entries.mem_canonical hf
  have spelled := spelled.trans name
  have extra : last ∈ extras := by
    refine h.mem_extras hlast fun s hs => ?_
    rw [← hs, Spelling.canonical_name] at spelled
    exact name_ne_customName s spelled
  cases h.exists_loaded made same extra with
  | inl explicit =>
      obtain ⟨table, htable, g, hg, height⟩ := explicit
      rw [Entries.getD, found, ← value, Option.getD_some, Value.orElse] at htable
      split at htable
      · have inside := Table.height_lt_of_ofValue htable hg
        omega
      · cases htable
        cases hg
  | inr loaded =>
      obtain ⟨isCustom, k, _, hk⟩ := loaded
      have plain : Spelling.canonical k.1 ≠ Spelling.irregular := by
        rintro irregular
        rw [← hk, irregular, Spelling.canonical_irregular] at spelled
        exact name_ne_customName _ spelled
      have fixed := Spelling.canonical_eq_self plain
      rw [hk, spelled] at fixed
      exact (isCustomName_iff.1 isCustom).2 fixed.symm

/-- If the same configuration is loaded, every custom value is under a name that it keeps. -/
theorem keepsName (h : c.Settled extras) (made : ofLayers (c.savedEntries extras) .null = .ok c')
    (same : c.Same c') {e : String × Value} (he : e ∈ extras) : KeepsName e.1 := by
  -- No name stands for that of the custom values, so there are no explicit ones among the saved.
  have none : (c.savedEntries extras).canonical.get? Setting.customName = none := by
    rw [Entries.get?_eq_none_iff]
    intro member
    obtain ⟨f, hf, custom⟩ := Entries.mem_map_fst_canonical.1 member
    refine h.canonical_ne_customName made same (h.mem_extras hf fun s hs => ?_) custom
    rw [← hs, Spelling.canonical_name] at custom
    exact name_ne_customName s custom
  have loaded {f : String × Value} (hf : f ∈ extras) :
      isCustomName f.1 = true ∧ ∃ g ∈ c.savedEntries extras, Spelling.canonical g.1 = f.1 := by
    refine (h.exists_loaded made same hf).resolve_left ?_
    rintro ⟨explicit, hexplicit, g, hg, _⟩
    rw [Entries.getD, none] at hexplicit
    cases hexplicit
    cases hg
  obtain ⟨isCustom, g, hg, spelled⟩ := loaded he
  refine ⟨?_, isCustomName_iff.1 isCustom⟩
  by_contra changed
  -- Only the irregular spelling is changed again, and only a name that is not canonical itself
  -- stands for it. But that is loaded under a canonical name, too.
  have irregular : e.1 = Spelling.irregular := by
    by_contra plain
    have fixed := Spelling.canonical_eq_self (spelled ▸ plain)
    rw [spelled] at fixed
    exact changed fixed
  rw [irregular] at spelled
  have extra : g ∈ extras := by
    refine h.mem_extras hg fun s hs => ?_
    rw [← hs, Spelling.canonical_name] at spelled
    have custom := (isCustomName_iff.1 isCustom).1
    rw [irregular, ← spelled, s.ofName?_name] at custom
    cases custom
  obtain ⟨_, k, _, hk⟩ := loaded extra
  have changed : Spelling.canonical g.1 ≠ g.1 := by
    intro fixed
    rw [spelled] at fixed
    rw [← fixed] at spelled
    exact Spelling.canonical_irregular_ne spelled
  by_cases plain : g.1 = Spelling.irregular
  · exact changed (plain ▸ spelled)
  · have fixed := Spelling.canonical_eq_self (hk ▸ plain)
    rw [hk] at fixed
    exact changed fixed

end Settled

/-! ## Files of configurations -/

theorem objectOf_ofEntries (es : Entries) : objectOf (.ofEntries es) = .object es := by
  rw [objectOf, Table.ofEntries, List.map_map]
  exact congrArg Value.object (List.map_id es)

/-- A configuration that is saved is written to its file as an object that can be encoded. -/
theorem save_eq_ok {halves : Text.Halves} {t saved : FileTree} {directory : Place} {file : String}
    (h : c.save halves t directory file = .ok saved) :
    ∃ table, c.savedTable = .ok table ∧ (Path.ofString file).misuse? halves = none ∧
      t.write directory (Path.ofString file) (Text.encode (Json.indented (objectOf table))) =
        .ok saved ∧ Json.encodes halves (objectOf table) = true := by
  rw [save] at h
  obtain ⟨table, htable, h⟩ := bind_eq_ok.1 h
  have made : c.savedTable = .ok table := by
    cases hc : c.savedTable with
    | error m =>
        rw [hc] at htable
        cases htable
    | ok table' =>
        rw [hc] at htable
        cases htable
        rfl
  refine ⟨table, made, ?_⟩
  dsimp only at h
  split at h
  · cases h
  next sound =>
    split at h
    next written =>
      split at h
      next encodes =>
        cases h
        exact ⟨sound, written, encodes⟩
      · cases h
    · cases h

/-- From the file of a saved configuration the entries are read that were saved. -/
theorem Settled.load_of_save (h : c.Settled extras) {reader : Json.Reader} {t saved : FileTree}
    {directory : Place} {file : String} (suffix : Text.lower (Path.ofString file).suffix = ".json")
    (written : c.save reader.halves t directory file = .ok saved)
    (readsBack : Json.ReadsBack reader (.object (c.savedEntries extras))) :
    load reader saved directory file .null = ofMisuse (ofLayers (c.savedEntries extras) .null) := by
  have named : file ≠ "" := by
    rintro rfl
    revert suffix
    decide +kernel
  obtain ⟨table, htable, sound, hwrite, _⟩ := save_eq_ok written
  cases h.savedTable.symm.trans htable
  rw [objectOf_ofEntries] at hwrite
  have found : saved.pathExists reader.halves directory (Path.ofString file) = .ok true := by
    rw [FileTree.pathExists, sound, Option.isSome_none, if_neg Bool.false_ne_true,
      FileTree.lookup_of_write hwrite]
  have entries : readFile reader saved directory (Path.ofString file) =
      .ok (c.savedEntries extras) := by
    rw [readFile, found]
    dsimp only
    rw [if_neg (not_not_intro suffix), FileTree.read_of_write hwrite]
    dsimp only
    rw [readsBack]
  rw [load, if_neg named, entries]
  rfl

/-- A configuration made of two layers is loaded again from the file in which it was saved if and
only if all custom values stand under names that they keep. Otherwise nothing that is the same is
loaded either. -/
theorem load_save_iff {below top : Entries} (reader : Json.Reader) {t saved : FileTree}
    {directory : Place} {file : String} (made : ofLayers below (.object top) = .ok c)
    (plain : (Value.object below).Plain ∧ (Value.object top).Plain)
    (object : ∀ v, (Entries.putAll below.canonical top.canonical).get? Setting.customName = some v →
      ∃ fs, v = .object fs)
    (suffix : Text.lower (Path.ofString file).suffix = ".json")
    (written : c.save reader.halves t directory file = .ok saved)
    (readsBack : ∀ table, c.savedTable = .ok table → Json.ReadsBack reader (objectOf table)) :
    (load reader saved directory file .null = .ok c ↔ c.custom.KeepsNames) ∧
      ((∃ c', load reader saved directory file .null = .ok c' ∧ c.Same c') ↔ c.custom.KeepsNames) := by
  obtain ⟨extras, h⟩ := exists_settled_of_layers made plain.1 plain.2 object
  have loaded := h.load_of_save suffix written
    (objectOf_ofEntries (c.savedEntries extras) ▸ readsBack _ h.savedTable)
  have again (keeps : c.custom.KeepsNames) : load reader saved directory file .null = .ok c := by
    rw [loaded, h.reloaded (h.keepsNames_iff.1 keeps)]
    rfl
  have only : (∃ c', load reader saved directory file .null = .ok c' ∧ c.Same c') →
      c.custom.KeepsNames := by
    rintro ⟨c', hload, same⟩
    rw [loaded] at hload
    cases hmade : ofLayers (c.savedEntries extras) .null with
    | error m =>
        rw [hmade] at hload
        cases hload
    | ok c'' =>
        rw [hmade] at hload
        cases hload
        exact h.keepsNames_iff.2 fun e he => h.keepsName hmade same he
  exact ⟨⟨fun hload => only ⟨c, hload, h.same_self⟩, again⟩,
    ⟨only, fun keeps => ⟨c, again keeps, h.same_self⟩⟩⟩

/-- Two custom values, one given as such and one found among the settings, are loaded again. -/
theorem load_save_of_team :
    ∃ c, ofLayers [("modelType", .str "type"), ("custom", .object [("team", .str "core")])]
        (.object [("zodOutput", .str "zod.ts"), ("featureLevel", .int 3)]) = .ok c ∧
      ∃ saved, c.save Json.Reader.usual.halves .empty [] "c.json" = .ok saved ∧
        load .usual saved [] "c.json" .null = .ok c := by
  have found {x : Except ConfigFailure FileTree} {p : FileTree → Prop} (isOk : x.isOk = true)
      (h : ∀ a, x = .ok a → p a) : ∃ a, x = .ok a ∧ p a := by
    cases x with
    | error => cases isOk
    | ok a => exact ⟨a, rfl, h a rfl⟩
  have made : ofLayers [("modelType", .str "type"), ("custom", .object [("team", .str "core")])]
      (.object [("zodOutput", .str "zod.ts"), ("featureLevel", .int 3)]) = .ok _ := rfl
  refine ⟨_, made, found (by decide +kernel) fun saved written => ?_⟩
  refine (load_save_iff .usual made ⟨?_, ?_⟩ ?_ (by decide +kernel) written ?_).1.2
    (by decide +kernel)
  · refine .object (by decide) (List.forall_mem_cons.2 ⟨.str _, List.forall_mem_singleton.2 ?_⟩)
    exact .object (by decide) (List.forall_mem_singleton.2 (.str _))
  · exact .object (by decide)
      (List.forall_mem_cons.2 ⟨.str _, List.forall_mem_singleton.2 (.int _)⟩)
  · rintro v ⟨⟩
    exact ⟨_, rfl⟩
  · rintro table ⟨⟩
    exact Json.Storable.readsBack (by decide +kernel)

end Config

end Typewright
