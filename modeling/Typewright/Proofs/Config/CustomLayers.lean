import Typewright.Proofs.Config.Precedence

/-!
# Custom values of two layers

A layer gives custom values under names that are no settings, and as an object under the name of
the custom values (`Entries.Gives`). The upper layer should win for each of them, and what only the
lower one gives should stay (`UpperWins`). That is so for all names but two kinds
(`upperWins_extrasIn_iff`). A name of the lower layer wins over the object of the upper one, since
names come on top of objects (`Reversed`); and any object of the upper layer replaces that of the
lower one, with all values that it does not give itself (`Dropped`).
-/

namespace Typewright

/-! ## What a layer gives -/

namespace Entries

/-- Whether entries give a value for a name, by the name or among the custom values given as such. -/
def Gives (es : Entries) (name : String) (v : Value) : Prop :=
  (∃ e ∈ es, Spelling.canonical e.1 = name ∧ e.2 = v) ∨ es.explicit.get? name = some v

variable {es : Entries} {name : String}

theorem gives_of_last? {v : Value} (h : es.last? name = some v) : es.Gives name v :=
  .inl (mem_of_last? h)

theorem gives_iff_of_last? {v : Value} (h : es.last? name = none) :
    es.Gives name v ↔ es.explicit.get? name = some v :=
  or_iff_right fun ⟨e, member, spelled, _⟩ => last?_eq_none_iff.1 h e member spelled

end Entries

namespace Config

open Entries (layered?)

/-! ## Names that go wrong -/

/-- Whether what is found for a name is what the upper layer gives, or what the lower layer gives if
the upper one gives nothing. -/
structure UpperWins (below top : Entries) (name : String) (found : Option Value) : Prop where
  /-- A value of the upper layer is found. -/
  upper : (∃ v, top.Gives name v) → ∃ v, top.Gives name v ∧ found = some v
  /-- What only the lower layer gives is found. -/
  lower : (¬ ∃ v, top.Gives name v) → (∃ v, below.Gives name v) →
    ∃ v, below.Gives name v ∧ found = some v

/-- Whether the lower layer wins: it gives a name with a value other than that in the object of the
upper layer, which gives the name only there. -/
def Reversed (below top : Entries) (name : String) : Prop :=
  top.last? name = none ∧ ∃ v w, top.explicit.get? name = some v ∧ below.last? name = some w ∧ w ≠ v

/-- Whether a value is lost: it is in the object of the lower layer, and the upper layer has an
object, but nothing for the name. -/
def Dropped (below top : Entries) (name : String) : Prop :=
  (top.last? Setting.customName).isSome = true ∧ (¬ ∃ v, top.Gives name v) ∧
    below.last? name = none ∧ ∃ v, below.explicit.get? name = some v

variable {below top : Entries} {name : String} {found : Option Value}

theorem upperWins_of_gives {v : Value} (gives : top.Gives name v) :
    UpperWins below top name found ↔ ∃ w, top.Gives name w ∧ found = some w :=
  ⟨fun h => h.upper ⟨v, gives⟩, fun h => ⟨fun _ => h, fun nothing => absurd ⟨v, gives⟩ nothing⟩⟩

theorem upperWins_of_not_gives (nothing : ¬ ∃ v, top.Gives name v) :
    UpperWins below top name found ↔
      ((∃ v, below.Gives name v) → ∃ v, below.Gives name v ∧ found = some v) :=
  ⟨fun h => h.lower nothing, fun h => ⟨fun gives => absurd gives nothing, fun _ => h⟩⟩

/-- What the upper layer gives under the name itself comes on top of everything. -/
theorem upperWins_iff_of_top {v : Value} (given : top.last? name = some v) :
    UpperWins below top name ((layered? below top name).or ((explicitIn below top).get? name)) ↔
      ¬ Reversed below top name ∧ ¬ Dropped below top name := by
  have gives := Entries.gives_of_last? given
  have regular : ¬ Reversed below top name := fun reversed => by
    rw [Reversed, given] at reversed
    cases reversed.1
  rw [upperWins_of_gives gives, layered?, given]
  exact iff_of_true ⟨v, gives, rfl⟩ ⟨regular, fun dropped => dropped.2.1 ⟨v, gives⟩⟩

/-- What the lower layer gives under the name itself comes on top of both objects. -/
theorem upperWins_iff_of_below {w : Value} (absent : top.last? name = none)
    (given : below.last? name = some w) :
    UpperWins below top name ((layered? below top name).or ((explicitIn below top).get? name)) ↔
      ¬ Reversed below top name ∧ ¬ Dropped below top name := by
  have kept : ¬ Dropped below top name := fun dropped => by
    rw [Dropped, given] at dropped
    cases dropped.2.2.1
  have found : layered? below top name = some w := by rw [layered?, absent, given, Option.none_or]
  rw [and_iff_left kept, Reversed, found, Option.some_or, given]
  cases inside : top.explicit.get? name with
  | some v =>
      rw [upperWins_of_gives ((Entries.gives_iff_of_last? absent).2 inside)]
      simp [Entries.gives_iff_of_last? absent, inside, absent, eq_comm]
  | none =>
      have nothing : ¬ ∃ v, top.Gives name v := by
        simp [Entries.gives_iff_of_last? absent, inside]
      rw [upperWins_of_not_gives nothing]
      exact iff_of_true (fun _ => ⟨w, Entries.gives_of_last? given, rfl⟩) (by simp)

/-- Of the two objects only one counts. -/
theorem upperWins_iff_of_objects (absent_top : top.last? name = none)
    (absent_below : below.last? name = none) :
    UpperWins below top name ((layered? below top name).or ((explicitIn below top).get? name)) ↔
      ¬ Reversed below top name ∧ ¬ Dropped below top name := by
  have regular : ¬ Reversed below top name := by
    rintro ⟨_, v, w, _, given, _⟩
    rw [absent_below] at given
    cases given
  have found : layered? below top name = none := by
    rw [layered?, absent_top, absent_below, Option.none_or]
  rw [and_iff_right regular, found, Option.none_or, explicitIn]
  by_cases replaced : (top.last? Setting.customName).isSome = true
  · rw [if_pos replaced]
    cases inside : top.explicit.get? name with
    | some v =>
        have gives := (Entries.gives_iff_of_last? absent_top).2 inside
        rw [upperWins_of_gives gives]
        exact iff_of_true ⟨v, gives, rfl⟩ fun dropped => dropped.2.1 ⟨v, gives⟩
    | none =>
        have nothing : ¬ ∃ v, top.Gives name v := by
          simp [Entries.gives_iff_of_last? absent_top, inside]
        rw [upperWins_of_not_gives nothing]
        simp [Dropped, replaced, nothing, absent_below, Entries.gives_iff_of_last? absent_below]
  · have nothing : ¬ ∃ v, top.Gives name v := by
      rw [Bool.not_eq_true, Option.isSome_eq_false_iff, Option.isNone_iff_eq_none] at replaced
      simp [Entries.gives_iff_of_last? absent_top, Entries.explicit_of_none replaced]
    rw [if_neg replaced, upperWins_of_not_gives nothing]
    refine iff_of_true ?_ fun dropped => replaced dropped.1
    rintro ⟨v, gives⟩
    exact ⟨v, gives, (Entries.gives_iff_of_last? absent_below).1 gives⟩

theorem upperWins_extrasIn_iff (custom : isCustomName name = true) :
    UpperWins below top name ((extrasIn below top).get? name) ↔
      ¬ Reversed below top name ∧ ¬ Dropped below top name := by
  rw [get?_extrasIn, if_pos custom]
  cases upper : top.last? name with
  | some v => exact upperWins_iff_of_top upper
  | none =>
      cases lower : below.last? name with
      | some w => exact upperWins_iff_of_below upper lower
      | none => exact upperWins_iff_of_objects upper lower

/-! ## Loading custom values -/

variable {reader : Json.Reader} {t : FileTree} {directory : Place} {file : String}

/-- Two layers that give custom values as such only as objects are loaded, and for each name that is
no setting the upper layer wins and nothing is lost, unless the name is in the object of the upper
layer and stands by itself in the lower one, or is in the object of the lower layer while the upper
one has another object. -/
theorem load_upperWins_iff (holds : Holds reader t directory file below)
    (objects_below : GivesObjects below) (objects_top : GivesObjects top) :
    ∃ c extras, load reader t directory file (.object top) = .ok c ∧
      c.custom = .table (.ofEntries extras) ∧
      ∀ name, isCustomName name = true →
        (UpperWins below top name (extras.get? name) ↔
          ¬ Reversed below top name ∧ ¬ Dropped below top name) :=
  ⟨_, _, load_objects holds objects_below objects_top, rfl, fun _ => upperWins_extrasIn_iff⟩

/-- The upper layer wins by names, while what the lower one has in its object stays. -/
theorem load_upperWins_of_team : ∃ t c extras,
    Holds .usual t [] "c.json" [("team", .str "core"), ("custom", .object [("owner", .str "ops")])] ∧
    load .usual t [] "c.json" (.object [("team", .str "web")]) = .ok c ∧
    c.custom = .table (.ofEntries extras) ∧
    ∀ name ∈ ["team", "owner"],
      UpperWins [("team", .str "core"), ("custom", .object [("owner", .str "ops")])]
        [("team", .str "web")] name (extras.get? name) := by
  obtain ⟨t, holds⟩ := exists_holds
    [("team", .str "core"), ("custom", .object [("owner", .str "ops")])] (by decide +kernel)
  have objects : GivesObjects [("team", .str "web")] := by rintro v ⟨⟩
  obtain ⟨c, extras, loaded, custom, wins⟩ :=
    load_upperWins_iff holds (by rintro v ⟨⟩; exact ⟨_, rfl⟩) objects
  refine ⟨t, c, extras, holds, loaded, custom, fun name member => ?_⟩
  have isCustom : isCustomName name = true :=
    List.all_eq_true.1 (by decide : ["team", "owner"].all isCustomName = true) name member
  refine (wins name isCustom).2 ⟨?_, fun dropped => ?_⟩
  · rintro ⟨_, v, w, given, _⟩
    cases given
  · cases dropped.1

/-- Custom values of the upper layer in an object: a name of the lower layer wins over one of them,
and the object of the lower layer is lost. -/
theorem load_reversed_and_dropped : ∃ t c extras,
    Holds .usual t [] "c.json" [("team", .str "core"), ("custom", .object [("owner", .str "ops")])] ∧
    load .usual t [] "c.json" (.object [("custom", .object [("team", .str "web")])]) = .ok c ∧
    c.custom = .table (.ofEntries extras) ∧
    ∀ name ∈ ["team", "owner"], isCustomName name = true ∧
      ¬ UpperWins [("team", .str "core"), ("custom", .object [("owner", .str "ops")])]
        [("custom", .object [("team", .str "web")])] name (extras.get? name) := by
  obtain ⟨t, holds⟩ := exists_holds
    [("team", .str "core"), ("custom", .object [("owner", .str "ops")])] (by decide +kernel)
  have objects : GivesObjects [("custom", .object [("team", .str "web")])] := by
    rintro v ⟨⟩
    exact ⟨_, rfl⟩
  have loaded := load_objects holds (by rintro v ⟨⟩; exact ⟨_, rfl⟩) objects
  refine ⟨t, _, _, holds, loaded, rfl, List.forall_mem_cons.2 ⟨?_, List.forall_mem_singleton.2 ?_⟩⟩
  · have team : isCustomName "team" = true := by decide
    refine ⟨team, fun wins => ((upperWins_extrasIn_iff team).1 wins).1 ?_⟩
    exact ⟨rfl, .str "web", .str "core", rfl, rfl, by simp⟩
  · have owner : isCustomName "owner" = true := by decide
    refine ⟨owner, fun wins => ((upperWins_extrasIn_iff owner).1 wins).2 ⟨rfl, ?_, rfl, _, rfl⟩⟩
    rintro ⟨v, gives⟩
    rw [Entries.gives_iff_of_last? rfl] at gives
    cases gives

end Config

end Typewright
