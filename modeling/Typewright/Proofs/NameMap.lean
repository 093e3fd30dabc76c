import Mathlib.Data.List.Nodup
import Typewright.Naming
import Typewright.Proofs.Outcome

/-!
# What name maps hold

A name map is made by adding the names of a part one after the other. When all of them are texts,
a name that comes again changes nothing, since one text has one rendered name. So the map holds
each name once, in no other form than between its affixes. `NameMap.Lists` says this of a map, and
`NameMap.build_lists` that a map can be made of any texts and is then as described.

Two laws are what the rest speaks of. `NameMap.Lists.get_eq_some` says what is found under a raw
name, and `clash?_eq_none_iff` that there is no clash exactly when no rendered name comes twice.
-/

namespace Typewright

/-! ## Texts as names -/

/-- Whether a value is a text. -/
def Value.IsText (v : Value) : Prop := ∃ s, v = .str s

/-- Whether a value is a text with something in it. -/
def Value.IsName (v : Value) : Prop := ∃ s, s ≠ "" ∧ v = .str s

theorem Value.IsName.isText {v : Value} (h : v.IsName) : v.IsText := by
  obtain ⟨s, _, rfl⟩ := h
  exact ⟨s, rfl⟩

theorem affixed_inj {before after : Value} {s t : String}
    (h : affixed before (.str s) after = affixed before (.str t) after) : s = t := by
  unfold affixed at h
  exact (String.append_right_inj _).1 ((String.append_left_inj _).1 h)

theorem affixed_ne_empty_of_display {before name after : Value} (shown : name.display ≠ "") :
    affixed before name after ≠ "" := by
  intro he
  rw [affixed, String.append_eq_empty_iff, String.append_eq_empty_iff] at he
  exact shown he.1.2

/-- What has a name has a rendered name. -/
theorem affixed_ne_empty {before name after : Value} (h : name.IsName) :
    affixed before name after ≠ "" := by
  obtain ⟨s, hs, rfl⟩ := h
  exact affixed_ne_empty_of_display hs

namespace NameMap

/-! ## Adding a name -/

/-- The entry of a text. -/
def textEntry (before after : Value) (s : String) : NameEntry :=
  ⟨.str s, .str s, affixed before (.str s) after⟩

theorem entryOf_text (before after : Value) (s : String) :
    entryOf before after (.str s) = .ok (textEntry before after s) := rfl

theorem map_key_insert (m : NameMap) (new : NameEntry) :
    (m.insert new).map (·.key) =
      if new.key ∈ m.map (·.key) then m.map (·.key) else m.map (·.key) ++ [new.key] := by
  induction m with
  | nil => simp [insert]
  | cons e rest ih =>
      unfold insert
      by_cases h : e.key = new.key
      · simp [h]
      · have h' : new.key ≠ e.key := fun x => h x.symm
        simp only [if_neg h, List.map_cons, ih, List.mem_cons, h', false_or]
        split <;> simp

theorem nodup_insert {m : NameMap} (h : (m.map (·.key)).Nodup) (new : NameEntry) :
    ((m.insert new).map (·.key)).Nodup := by
  rw [map_key_insert]
  split
  · exact h
  · next notMem =>
      rw [← List.concat_eq_append]
      exact h.concat notMem

/-- An entry that is the only one of its key is in the map after it was added, and all that was
there stays. -/
theorem mem_insert {m : NameMap} {new : NameEntry} (same : ∀ e ∈ m, e.key = new.key → e = new)
    (e : NameEntry) : e ∈ m.insert new ↔ e ∈ m ∨ e = new := by
  induction m with
  | nil => simp [insert]
  | cons x rest ih =>
      unfold insert
      by_cases h : x.key = new.key
      · have hx : x = new := same x List.mem_cons_self h
        subst hx
        simp only [if_true, List.mem_cons]
        constructor
        · exact Or.inl
        · rintro (h | h)
          · exact h
          · exact Or.inl h
      · rw [if_neg h, List.mem_cons, List.mem_cons, or_assoc,
          ih fun e he => same e (List.mem_cons_of_mem _ he)]

/-! ## The map of texts -/

/-- A map lists the given names, which are texts, each once and between its affixes. -/
structure Lists (m : NameMap) (names : List Value) (before after : Value) : Prop where
  /-- No name comes twice. -/
  nodup : (m.map (·.key)).Nodup
  /-- The entries are those of the names. -/
  mem_iff : ∀ e, e ∈ m ↔ ∃ s, .str s ∈ names ∧ e = textEntry before after s

theorem lists_nil (before after : Value) : Lists [] [] before after :=
  ⟨List.nodup_nil, by simp⟩

/-- An entry with the key of a text is the entry of that text. -/
theorem Lists.eq_of_key {m : NameMap} {names : List Value} {before after : Value}
    (h : m.Lists names before after) (s : String) :
    ∀ e ∈ m, e.key = (textEntry before after s).key → e = textEntry before after s := by
  intro e he hk
  obtain ⟨t, _, rfl⟩ := (h.mem_iff e).1 he
  cases hk
  rfl

/-- A step of `build`: one more text. -/
theorem Lists.insert {m : NameMap} {names : List Value} {before after : Value}
    (h : m.Lists names before after) (s : String) :
    (m.insert (textEntry before after s)).Lists (names ++ [.str s]) before after := by
  refine ⟨nodup_insert h.nodup _, fun e => ?_⟩
  rw [mem_insert (h.eq_of_key s), h.mem_iff]
  constructor
  · rintro (⟨t, ht, rfl⟩ | rfl)
    · exact ⟨t, List.mem_append_left _ ht, rfl⟩
    · exact ⟨s, by simp, rfl⟩
  · rintro ⟨t, ht, rfl⟩
    cases List.mem_append.1 ht with
    | inl hm => exact Or.inl ⟨t, hm, rfl⟩
    | inr hm =>
        cases List.mem_singleton.1 hm
        exact Or.inr rfl

theorem lists_foldl {before after : Value} (new : List String) :
    ∀ {m : NameMap} {names : List Value}, m.Lists names before after →
      ((new.map (textEntry before after)).foldl NameMap.insert m).Lists
        (names ++ new.map .str) before after := by
  induction new with
  | nil => intro m names h; simpa using h
  | cons s new ih =>
      intro m names h
      have hs := ih (h.insert s)
      rwa [List.append_assoc, List.singleton_append] at hs

/-- Texts are a list of strings. -/
theorem exists_strings {names : List Value} (texts : ∀ v ∈ names, v.IsText) :
    ∃ ss : List String, names = ss.map .str := by
  induction names with
  | nil => exact ⟨[], rfl⟩
  | cons v names ih =>
      obtain ⟨s, rfl⟩ := texts v List.mem_cons_self
      obtain ⟨ss, rfl⟩ := ih fun w hw => texts w (List.mem_cons_of_mem _ hw)
      exact ⟨s :: ss, rfl⟩

theorem mapM_entryOf (before after : Value) (ss : List String) :
    (ss.map Value.str).mapM (entryOf before after) = .ok (ss.map (textEntry before after)) := by
  rw [mapM_eq_ok, List.forall₂_map_left_iff, List.forall₂_map_right_iff, List.forall₂_same]
  exact fun s _ => entryOf_text before after s

/-- A map can be made of any texts, and lists them. -/
theorem build_lists {names : List Value} (texts : ∀ v ∈ names, v.IsText) (before after : Value) :
    ∃ m, build names before after = .ok m ∧ m.Lists names before after := by
  obtain ⟨ss, rfl⟩ := exists_strings texts
  refine ⟨(ss.map (textEntry before after)).foldl NameMap.insert [], ?_, ?_⟩
  · rw [build, mapM_entryOf, ok_bind]
    rfl
  · simpa using lists_foldl ss (lists_nil before after)

/-! ## The first rendered name -/

/-- A text that is there already is not the first one with any property. -/
theorem find?_rendered_insert {m : NameMap} {new : NameEntry}
    (same : ∀ e ∈ m, e.key = new.key → e = new) (q : String → Bool) :
    ((m.insert new).map (·.rendered)).find? q = (m.map (·.rendered) ++ [new.rendered]).find? q := by
  induction m with
  | nil => rfl
  | cons x rest ih =>
      unfold insert
      by_cases h : x.key = new.key
      · have hx : x = new := same x List.mem_cons_self h
        subst hx
        rw [if_pos rfl, List.find?_append, List.find?_singleton, List.map_cons]
        cases hq : q x.rendered with
        | true => rw [List.find?_cons_of_pos hq, Option.some_or]
        | false => rw [if_neg Bool.false_ne_true, Option.or_none]
      · have ih := ih fun e he => same e (List.mem_cons_of_mem _ he)
        rw [if_neg h, List.map_cons, List.map_cons, List.cons_append, List.find?_cons,
          List.find?_cons, ih]

theorem find?_rendered_foldl {before after : Value} (q : String → Bool) (new : List String) :
    ∀ {m : NameMap} {names : List Value}, m.Lists names before after →
      (((new.map (textEntry before after)).foldl NameMap.insert m).map (·.rendered)).find? q =
        (m.map (·.rendered) ++ new.map fun s => affixed before (.str s) after).find? q := by
  induction new with
  | nil => intro m names h; simp
  | cons s new ih =>
      intro m names h
      rw [List.map_cons, List.foldl_cons, ih (h.insert s), List.find?_append,
        find?_rendered_insert (h.eq_of_key s), ← List.find?_append, List.append_assoc]
      rfl

/-- The first rendered name of a map with some property is that of the first of the texts. -/
theorem find?_rendered {names : List Value} {before after : Value} {m : NameMap}
    (texts : ∀ v ∈ names, v.IsText) (h : build names before after = .ok m) (q : String → Bool) :
    (m.map (·.rendered)).find? q = (names.map fun v => affixed before v after).find? q := by
  obtain ⟨ss, rfl⟩ := exists_strings texts
  rw [build, mapM_entryOf, ok_bind] at h
  cases pure_eq_ok.1 h
  rw [find?_rendered_foldl q ss (lists_nil before after), List.map_map]
  rfl

/-! ## Looking a name up -/

theorem key_eq_ok {v : Value} {k : Key} : v.key = .ok k ↔ v.key? = some k := by
  rw [Value.key]
  cases v.key? with
  | none => simp
  | some k => simp

theorem get_eq_ok {m : NameMap} {v : Value} {o : Option String} :
    m.get v = .ok o ↔ ∃ k, v.key? = some k ∧ m.find? k = o := by
  constructor
  · intro h
    obtain ⟨k, hk, h⟩ := bind_eq_ok.1 h
    exact ⟨k, key_eq_ok.1 hk, pure_eq_ok.1 h⟩
  · rintro ⟨k, hk, rfl⟩
    rw [get, key_eq_ok.2 hk]
    rfl

theorem has_eq_ok {m : NameMap} {v : Value} {b : Bool} :
    m.has v = .ok b ↔ ∃ o, m.get v = .ok o ∧ o.isSome = b := by
  constructor
  · intro h
    obtain ⟨k, hk, h⟩ := bind_eq_ok.1 h
    exact ⟨_, get_eq_ok.2 ⟨k, key_eq_ok.1 hk, rfl⟩, pure_eq_ok.1 h⟩
  · rintro ⟨o, ho, rfl⟩
    obtain ⟨k, hk, rfl⟩ := get_eq_ok.1 ho
    rw [has, key_eq_ok.2 hk]
    rfl

/-- Under one key one thing is found. -/
theorem get_unique {m : NameMap} {v w : Value} {o p : Option String} (same : v.key? = w.key?)
    (hv : m.get v = .ok o) (hw : m.get w = .ok p) : o = p := by
  obtain ⟨k, hk, rfl⟩ := get_eq_ok.1 hv
  obtain ⟨l, hl, rfl⟩ := get_eq_ok.1 hw
  rw [same, hl] at hk
  cases hk
  rfl

theorem find?_entry {m : NameMap} (nodup : (m.map (·.key)).Nodup) {e : NameEntry} (he : e ∈ m) :
    m.find? e.key = some e.rendered := by
  have found : List.find? (fun x => x.key == e.key) m = some e := by
    induction m with
    | nil => cases he
    | cons a rest ih =>
        rw [List.map_cons, List.nodup_cons] at nodup
        cases List.mem_cons.1 he with
        | inl h => subst h; simp
        | inr hm =>
            have hne : a.key ≠ e.key := fun h => nodup.1 (h ▸ List.mem_map_of_mem hm)
            rw [List.find?_cons_of_neg (by simpa using hne)]
            exact ih nodup.2 hm
  rw [NameMap.find?, found, Option.map_some]

theorem exists_entry_of_find? {m : NameMap} {k : Key} {r : String} (h : m.find? k = some r) :
    ∃ e ∈ m, e.key = k ∧ e.rendered = r := by
  obtain ⟨e, he, hr⟩ := Option.map_eq_some_iff.1 h
  exact ⟨e, List.mem_of_find?_eq_some he, by simpa using List.find?_some he, hr⟩

/-- Under a value there is what its text renders to if it is one of the names, and nothing else. -/
theorem Lists.get_eq_some {m : NameMap} {names : List Value} {before after : Value}
    (h : m.Lists names before after) (texts : ∀ v ∈ names, v.IsText) {v : Value} {r : String} :
    m.get v = .ok (some r) ↔ v ∈ names ∧ r = affixed before v after := by
  constructor
  · intro hg
    obtain ⟨k, hk, hf⟩ := get_eq_ok.1 hg
    obtain ⟨e, he, hek, her⟩ := exists_entry_of_find? hf
    obtain ⟨s, hs, rfl⟩ := (h.mem_iff e).1 he
    have hv : v = .str s := Value.key?_eq_str_iff.1 (hk.trans (congrArg some hek.symm))
    subst hv
    exact ⟨hs, her.symm⟩
  · rintro ⟨hv, rfl⟩
    obtain ⟨s, rfl⟩ := texts v hv
    have he : textEntry before after s ∈ m := (h.mem_iff _).2 ⟨s, hv, rfl⟩
    have hf : m.find? (.str s) = _ := find?_entry h.nodup he
    rw [NameMap.get, Value.key_str, ok_bind, hf]
    rfl

/-- Under a value that can name something there is nothing if it is none of the names. -/
theorem Lists.get_eq_none {m : NameMap} {names : List Value} {before after : Value}
    (h : m.Lists names before after) (texts : ∀ v ∈ names, v.IsText) {v : Value} {k : Key}
    (hk : v.key = .ok k) (hv : v ∉ names) : m.get v = .ok none := by
  have hg : m.get v = .ok (m.find? k) := by
    rw [NameMap.get, hk, ok_bind]
    rfl
  cases hf : m.find? k with
  | none => rw [hg, hf]
  | some r =>
      rw [hf] at hg
      exact absurd ((h.get_eq_some texts).1 hg).1 hv

/-- The raw names of a map are the names it lists. -/
theorem Lists.mem_raw {m : NameMap} {names : List Value} {before after : Value}
    (h : m.Lists names before after) (texts : ∀ v ∈ names, v.IsText) {v : Value} :
    v ∈ m.map (·.raw) ↔ v ∈ names := by
  constructor
  · intro hv
    obtain ⟨e, he, rfl⟩ := List.mem_map.1 hv
    obtain ⟨s, hs, rfl⟩ := (h.mem_iff e).1 he
    exact hs
  · intro hv
    obtain ⟨s, rfl⟩ := texts v hv
    exact List.mem_map.2 ⟨_, (h.mem_iff _).2 ⟨s, hv, rfl⟩, rfl⟩

/-! ## Rendered names of a map -/

theorem Lists.rendered_eq {m : NameMap} {names : List Value} {before after : Value}
    (h : m.Lists names before after) {e : NameEntry} (he : e ∈ m) :
    e.rendered = affixed before e.raw after := by
  obtain ⟨s, _, rfl⟩ := (h.mem_iff e).1 he
  rfl

theorem Lists.mem_rendered {m : NameMap} {names : List Value} {before after : Value}
    (h : m.Lists names before after) (texts : ∀ v ∈ names, v.IsText) {r : String} :
    r ∈ m.map (·.rendered) ↔ ∃ v ∈ names, r = affixed before v after := by
  rw [List.mem_map]
  constructor
  · rintro ⟨e, he, rfl⟩
    obtain ⟨s, hs, rfl⟩ := (h.mem_iff e).1 he
    exact ⟨_, hs, rfl⟩
  · rintro ⟨v, hv, rfl⟩
    obtain ⟨s, rfl⟩ := texts v hv
    exact ⟨_, (h.mem_iff _).2 ⟨s, hv, rfl⟩, rfl⟩

/-- Affixes keep names apart, so no rendered name of one map comes twice. -/
theorem Lists.nodup_rendered {m : NameMap} {names : List Value} {before after : Value}
    (h : m.Lists names before after) : (m.map (·.rendered)).Nodup := by
  refine List.Nodup.map_on ?_ (List.Nodup.of_map _ h.nodup)
  intro e he f hf same
  obtain ⟨s, _, rfl⟩ := (h.mem_iff e).1 he
  obtain ⟨t, _, rfl⟩ := (h.mem_iff f).1 hf
  rw [affixed_inj same]

/-- Every raw name of a map is a text. -/
theorem Lists.raw_isText {m : NameMap} {names : List Value} {before after : Value}
    (h : m.Lists names before after) {e : NameEntry} (he : e ∈ m) : e.raw.IsText := by
  obtain ⟨s, _, rfl⟩ := (h.mem_iff e).1 he
  exact ⟨s, rfl⟩

end NameMap

/-! ## Clashes -/

section Clashes

variable {α : Type} [BEq α]

theorem length_owners (entries : List (α × Value)) (r : α) :
    (owners entries r).length = (entries.map (·.1)).count r := by
  rw [owners, List.length_map, List.count_eq_countP, List.countP_map, List.countP_eq_length_filter]
  rfl

/-- A clash is the first rendered name that several raw names have. -/
theorem clash?_eq_map_find? (entries : List (α × Value)) :
    clash? entries =
      ((entries.map (·.1)).find? fun r => decide (1 < (owners entries r).length)).map fun r =>
        (r, owners entries r) := by
  rw [clash?, List.find?_map, Option.map_map, List.find?_eq_findSome?_guard, List.map_findSome?]
  congr
  funext e
  simp [Option.guard, apply_ite]

variable [LawfulBEq α]

/-- There is no clash exactly when no rendered name comes twice. -/
theorem clash?_eq_none_iff {entries : List (α × Value)} :
    clash? entries = none ↔ (entries.map (·.1)).Nodup := by
  rw [clash?, List.findSome?_eq_none_iff, List.nodup_iff_count_le_one]
  constructor
  · intro h r
    by_cases hr : r ∈ entries.map (·.1)
    · obtain ⟨e, he, rfl⟩ := List.mem_map.1 hr
      have := h e he
      rw [← length_owners]
      by_contra hlt
      simp only [gt_iff_lt, ite_eq_right_iff, reduceCtorEq, imp_false] at this
      omega
    · rw [List.count_eq_zero_of_not_mem hr]
      exact Nat.zero_le _
  · intro h e _
    have := h e.1
    rw [← length_owners] at this
    simp only [gt_iff_lt, ite_eq_right_iff, reduceCtorEq, imp_false]
    omega

theorem mem_of_mem_owners {entries : List (α × Value)} {r : α} {raw : Value}
    (h : raw ∈ owners entries r) : (r, raw) ∈ entries := by
  obtain ⟨e, he, rfl⟩ := List.mem_map.1 h
  obtain ⟨hm, hr⟩ := List.mem_filter.1 he
  rwa [← eq_of_beq hr]

theorem sortedTexts_map_str (ss : List String) :
    sortedTexts (ss.map .str) = .ok (ss.mergeSort fun a b => !decide (b < a)) := by
  have all : allTexts? (ss.map Value.str) = some ss := by
    induction ss with
    | nil => rfl
    | cons s ss ih => simp_all [allTexts?, Value.str?]
  rw [sortedTexts, all]

theorem pairwise_sorted (ss : List String) :
    (ss.mergeSort fun a b => !decide (b < a)).Pairwise (· ≤ ·) := by
  have ascends (a b : String) : (!decide (b < a)) = true ↔ a ≤ b := by
    rw [Bool.not_eq_true', decide_eq_false_iff_not, String.not_lt]
  refine (List.pairwise_mergeSort (fun a b c hab hbc => ?_) (fun a b => ?_) ss).imp
    fun h => (ascends _ _).1 h
  · exact (ascends a c).2 (String.le_trans ((ascends a b).1 hab) ((ascends b c).1 hbc))
  · rw [Bool.or_eq_true, ascends, ascends]
    exact String.le_total a b

/-- Raw names that are texts are shown in ascending order. -/
theorem checkClashes_of_clash (shown : α → String) {entries : List (α × Value)}
    (texts : ∀ e ∈ entries, e.2.IsText) {r : α} {raws : List Value}
    (h : clash? entries = some (r, raws)) :
    ∃ ss : List String, raws = ss.map .str ∧ checkClashes shown entries =
      .error (.collision (shown r) (ss.mergeSort fun a b => !decide (b < a))) := by
  have found := h
  rw [clash?_eq_map_find?, Option.map_eq_some_iff] at found
  obtain ⟨_, _, same⟩ := found
  cases same
  obtain ⟨ss, hss⟩ := NameMap.exists_strings fun v hv => texts _ (mem_of_mem_owners hv)
  refine ⟨ss, hss, ?_⟩
  rw [hss] at h
  simp only [checkClashes, h, sortedTexts_map_str]

theorem checkClashes_eq_ok (shown : α → String) {entries : List (α × Value)} :
    checkClashes shown entries = .ok () ↔ (entries.map (·.1)).Nodup := by
  rw [← clash?_eq_none_iff, checkClashes]
  cases hc : clash? entries with
  | none => simp
  | some found =>
      simp only [reduceCtorEq, iff_false]
      intro h
      split at h <;> cases h

/-- Raw names that are texts are shown: entries of which several have one rendered name are
refused with a collision. -/
theorem checkClashes_error {shown : α → String} {entries : List (α × Value)}
    (texts : ∀ e ∈ entries, e.2.IsText) {f : Fault} (h : checkClashes shown entries = .error f) :
    ∃ rendered raws, f = .collision rendered raws := by
  cases hc : clash? entries with
  | none => rw [checkClashes, hc] at h; cases h
  | some found =>
      obtain ⟨ss, _, refused⟩ := checkClashes_of_clash shown texts hc
      rw [refused] at h
      cases h
      exact ⟨_, _, rfl⟩

end Clashes

end Typewright
