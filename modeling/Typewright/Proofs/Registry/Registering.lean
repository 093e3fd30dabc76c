import Mathlib.Data.List.Nodup
import Typewright.Proofs.Registry

/-!
# Registering a new name

A name that is registered for the first time goes behind the names that are there, and its aliases
behind the aliases that are there. An alias adds nothing if it is the name itself or already stands
for the name. It is refused if it is another registered name or stands for another name; the
aliases before it have been added by then, and so has the name.

So a registration that fails leaves the registry as it was only if what it offers is no generator
(`register_refused`): otherwise the name stays, with the aliases that come before the refused one.
Whatever a registration of a new name has added, however it ended, unregistering the name takes away
again, and nothing else (`unregister_register`).
-/

namespace Typewright.Registry

/-! ## Giving names a meaning -/

theorem assign_of_notMem {α : Type} {m : List (String × α)} {name : String} {a : α}
    (h : name ∉ m.map Prod.fst) : assign m name a = m ++ [(name, a)] := by
  induction m with
  | nil => rfl
  | cons e rest ih =>
      rw [List.map_cons, List.mem_cons, not_or] at h
      rw [assign, if_neg (Ne.symm h.1), ih h.2]
      rfl

theorem assign_of_lookup {α : Type} {m : List (String × α)} {name : String} {a : α}
    (h : m.lookup name = some a) : assign m name a = m := by
  induction m with
  | nil => cases h
  | cons e rest ih =>
      obtain ⟨known, b⟩ := e
      by_cases same : known = name
      · subst same
        rw [List.lookup_cons_self, Option.some.injEq] at h
        rw [assign, if_pos rfl, h]
      · have differ : (name == known) = false := by simp [Ne.symm same]
        rw [List.lookup_cons, differ] at h
        rw [assign, if_neg same, ih h]

/-! ## One alias -/

/-- The aliases, in the order in which they were first given. -/
def bynames (r : Registry) : List String := r.aliases.map Prod.fst

/-- What accepting an alias for a name, in small letters, makes of a registry. -/
inductive Accepts (r : Registry) (name byname : String) : Registry → Prop
  /-- The name itself is no alias. -/
  | self : byname = name → Accepts r name byname r
  /-- The alias stands for the name already. -/
  | known : byname ≠ name → byname ∉ r.registered → r.aliases.lookup byname = some name →
      Accepts r name byname r
  /-- The alias is added. -/
  | added : byname ≠ name → byname ∉ r.registered → byname ∉ r.bynames →
      Accepts r name byname { r with aliases := r.aliases ++ [(byname, name)] }

/-- Why an alias, as it was given, cannot stand for a name. -/
inductive Refuses (r : Registry) (name given : String) : RegistryFailure → Prop
  /-- It is another registered name. -/
  | isName : Text.lower given ≠ name → Text.lower given ∈ r.registered →
      Refuses r name given (.aliasIsName given)
  /-- It stands for another name. -/
  | taken {owner : String} : Text.lower given ≠ name →
      r.aliases.lookup (Text.lower given) = some owner → owner ≠ name →
      Refuses r name given (.aliasTaken given owner)

theorem lookup_eq_none {α : Type} {m : List (String × α)} {name : String}
    (h : m.lookup name = none) : name ∉ m.map Prod.fst := by
  rw [← lookup_isSome_iff, h]
  exact Bool.false_ne_true

theorem refusal?_eq_none {r : Registry} {name given byname : String} :
    r.refusal? name given byname = none ↔
      byname ∉ r.registered ∧ ∀ owner, r.aliases.lookup byname = some owner → owner = name := by
  rw [refusal?, registered, ← lookup_isSome_iff]
  by_cases known : (r.generators.lookup byname).isSome
  · simp [known]
  · rw [if_neg known]
    cases found : r.aliases.lookup byname with
    | none => simp [known]
    | some owner => simp [known]

theorem refuses_of_refusal? {r : Registry} {name given : String} {failure : RegistryFailure}
    (differ : Text.lower given ≠ name)
    (h : r.refusal? name given (Text.lower given) = some failure) :
    r.Refuses name given failure := by
  rw [refusal?] at h
  split at h
  next known =>
    cases h
    exact .isName differ (lookup_isSome_iff.1 known)
  next =>
    split at h
    next owner found =>
      split at h
      next other =>
        cases h
        exact .taken differ found other
      next => cases h
    next => cases h

/-- What comes of an alias that is a text: nothing if it is the name, and otherwise a refusal or one
alias more. -/
theorem addAlias_str (r : Registry) (name given : String) (replace : Bool) :
    r.addAlias name replace (.str given) =
      if Text.lower given = name then .ok r
      else match if replace then none else r.refusal? name given (Text.lower given) with
        | some failure => .error failure
        | none => .ok { r with aliases := assign r.aliases (Text.lower given) name } := rfl

theorem str_of_addAlias {r next : Registry} {name : String} {replace : Bool} {v : Value}
    (h : r.addAlias name replace v = .ok next) : ∃ given, v = .str given := by
  cases v with
  | str given => exact ⟨given, rfl⟩
  | null | bool _ | int _ | double _ | list _ | object _ => cases h

theorem accepts_of_addAlias {r next : Registry} {name given : String}
    (h : r.addAlias name false (.str given) = .ok next) :
    r.Accepts name (Text.lower given) next := by
  rw [addAlias_str, if_neg Bool.false_ne_true] at h
  split at h
  next same =>
    cases h
    exact .self same
  next differ =>
    split at h
    next => cases h
    next accepted =>
      cases h
      obtain ⟨notName, owned⟩ := refusal?_eq_none.1 accepted
      cases found : r.aliases.lookup (Text.lower given) with
      | none =>
          have new := lookup_eq_none found
          rw [assign_of_notMem new]
          exact .added differ notName new
      | some owner =>
          cases owned owner found
          rw [assign_of_lookup found]
          exact .known differ notName found

theorem refuses_of_addAlias {r : Registry} {name given : String} {failure : RegistryFailure}
    (h : r.addAlias name false (.str given) = .error failure) : r.Refuses name given failure := by
  rw [addAlias_str, if_neg Bool.false_ne_true] at h
  split at h
  next => cases h
  next differ =>
    split at h
    next refused =>
      cases h
      exact refuses_of_refusal? differ refused
    next => cases h

/-! ## Aliases one after the other -/

/-- A registry with the aliases for a name that are new among those given, and nothing else
changed. -/
structure Adds (r : Registry) (name : String) (given : List String) (next : Registry) : Prop where
  generators : next.generators = r.generators
  /-- No new alias is a registered name. -/
  apart : ∀ byname ∈ next.bynames, byname ∈ r.bynames ∨ byname ∉ r.registered
  /-- The new aliases follow the old ones, each once. -/
  aliases : ∃ added : List String, next.aliases = r.aliases ++ added.map (·, name) ∧ added.Nodup ∧
    ∀ byname, byname ∈ added ↔
      (∃ g ∈ given, Text.lower g = byname) ∧ byname ≠ name ∧ byname ∉ r.bynames

theorem Adds.refl (r : Registry) (name : String) : r.Adds name [] r :=
  ⟨rfl, fun _ => .inl, [], by simp, List.nodup_nil, by simp⟩

theorem Adds.bynames_iff {r next : Registry} {name : String} {given : List String}
    (h : r.Adds name given next) {byname : String} :
    byname ∈ next.bynames ↔
      byname ∈ r.bynames ∨ (∃ g ∈ given, Text.lower g = byname) ∧ byname ≠ name := by
  obtain ⟨added, eq, _, mem⟩ := h.aliases
  rw [bynames, eq, List.map_append, List.map_map, List.mem_append, ← bynames]
  have fst : (Prod.fst ∘ fun b : String => (b, name)) = id := rfl
  rw [fst, List.map_id, mem]
  tauto

/-- An alias that adds nothing is not a new one. -/
theorem Adds.concat_of_old {r next : Registry} {name : String} {given : List String} {g : String}
    (h : r.Adds name given next)
    (old : Text.lower g = name ∨ Text.lower g ∈ next.bynames) : r.Adds name (given ++ [g]) next := by
  obtain ⟨added, eq, nodup, mem⟩ := h.aliases
  refine ⟨h.generators, h.apart, added, eq, nodup, fun byname => (mem byname).trans ?_⟩
  constructor
  · rintro ⟨⟨g', hg', rfl⟩, differ, new⟩
    exact ⟨⟨g', List.mem_append_left _ hg', rfl⟩, differ, new⟩
  · rintro ⟨⟨g', hg', rfl⟩, differ, new⟩
    refine ⟨?_, differ, new⟩
    obtain hg' | hg' := List.mem_append.1 hg'
    · exact ⟨g', hg', rfl⟩
    · cases List.mem_singleton.1 hg'
      obtain self | here := old
      · exact absurd self differ
      · exact ((h.bynames_iff.1 here).resolve_left new).1

/-- A step of `addAliases`: what was added before, and one accepted alias more. -/
theorem Adds.concat {r mid next : Registry} {name : String} {given : List String} {g : String}
    (h : r.Adds name given mid) (accepted : mid.Accepts name (Text.lower g) next) :
    r.Adds name (given ++ [g]) next := by
  cases accepted with
  | self same => exact h.concat_of_old (.inl same)
  | known _ _ found => exact h.concat_of_old (.inr (List.mem_map_of_mem (mem_of_lookup found)))
  | added differ notName new =>
      obtain ⟨added, eq, nodup, mem⟩ := h.aliases
      have notAdded : Text.lower g ∉ added := fun here =>
        new (h.bynames_iff.2 (.inr ⟨((mem _).1 here).1, differ⟩))
      rw [registered, h.generators] at notName
      refine ⟨h.generators, fun byname hb => ?_, added ++ [Text.lower g], ?_, ?_, fun byname => ?_⟩
      · rw [bynames, List.map_append, List.mem_append] at hb
        obtain hb | hb := hb
        · exact h.apart byname hb
        · exact .inr (List.mem_singleton.1 hb ▸ notName)
      · simp [eq]
      · exact List.concat_eq_append ▸ List.Nodup.concat notAdded nodup
      · rw [List.mem_append, List.mem_singleton, mem]
        constructor
        · rintro (⟨⟨g', hg', rfl⟩, rest⟩ | rfl)
          · exact ⟨⟨g', List.mem_append_left _ hg', rfl⟩, rest⟩
          · exact ⟨⟨g, by simp, rfl⟩, differ, fun old => new (h.bynames_iff.2 (.inl old))⟩
        · rintro ⟨⟨g', hg', rfl⟩, rest⟩
          obtain hg' | hg' := List.mem_append.1 hg'
          · exact .inl ⟨⟨g', hg', rfl⟩, rest⟩
          · exact .inr (congrArg Text.lower (List.mem_singleton.1 hg'))

/-- The aliases up to the first that is refused are added, and all if none is. -/
theorem Adds.addAliases {r mid next : Registry} {name : String} {given : List String}
    {vs : List Value} {refusal : Option RegistryFailure} (h : r.Adds name given mid)
    (eq : mid.addAliases name false vs = (next, refusal)) :
    ∃ texts rest, vs = texts.map .str ++ rest ∧ r.Adds name (given ++ texts) next ∧
      ((rest = [] ∧ refusal = none) ∨ ∃ v after failure, rest = v :: after ∧
        next.addAlias name false v = .error failure ∧ refusal = some failure) := by
  induction vs generalizing mid given with
  | nil =>
      cases eq
      exact ⟨[], [], rfl, by rwa [List.append_nil], .inl ⟨rfl, rfl⟩⟩
  | cons v vs ih =>
      rw [Registry.addAliases] at eq
      cases step : mid.addAlias name false v with
      | error failure =>
          rw [step] at eq
          cases eq
          exact ⟨[], v :: vs, rfl, by rwa [List.append_nil], .inr ⟨v, vs, failure, rfl, step, rfl⟩⟩
      | ok more =>
          rw [step] at eq
          obtain ⟨g, rfl⟩ := str_of_addAlias step
          obtain ⟨texts, rest, rfl, adds, ended⟩ := ih (h.concat (accepts_of_addAlias step)) eq
          rw [List.append_assoc, List.singleton_append] at adds
          exact ⟨g :: texts, rest, rfl, adds, ended⟩

/-- Of texts the first that is refused has the added ones before it. -/
theorem Adds.refuses_of_addAliases {r mid next : Registry} {name : String} {given gs : List String}
    {failure : RegistryFailure} (h : r.Adds name given mid)
    (eq : mid.addAliases name false (gs.map .str) = (next, some failure)) :
    ∃ before g after, gs = before ++ g :: after ∧ r.Adds name (given ++ before) next ∧
      next.Refuses name g failure := by
  obtain ⟨before, rest, split, adds, ⟨_, none⟩ | ⟨v, vs, f, hrest, refused, some⟩⟩ :=
    h.addAliases eq
  · cases none
  · cases some
    subst hrest
    obtain ⟨texts, tail, rfl, same, htail⟩ := List.map_eq_append_iff.1 split
    obtain ⟨g, after, rfl, rfl, _⟩ := List.map_eq_cons_iff.1 htail
    obtain rfl := List.map_injective_iff.2 (fun _ _ => Value.str.inj) same
    exact ⟨texts, g, after, rfl, adds, refuses_of_addAlias refused⟩

/-! ## A new name -/

/-- A registry with a new name at the end. -/
def withName (r : Registry) (name : String) (t : Target) : Registry :=
  { r with generators := r.generators ++ [(name, t)] }

/-- What registering a new name comes to. -/
theorem register_of_new {r : Registry} {name : String} (new : Text.lower name ∉ r.registered)
    (t : Target) (aliases : Value) (replace : Bool) :
    r.register (.str name) (.generator t) aliases replace =
      match (aliases.orElse (.list [])).elements with
      | .error m => (r.withName (Text.lower name) t, some (.misuse m))
      | .ok vs => (r.withName (Text.lower name) t).addAliases (Text.lower name) replace vs := by
  have unknown : (r.generators.lookup (Text.lower name)).isSome = false :=
    Bool.eq_false_iff.2 fun known => new (lookup_isSome_iff.1 known)
  rw [register, nameOf_str]
  dsimp only
  rw [unknown, Bool.false_and, if_neg Bool.false_ne_true, assign_of_notMem new]
  rfl

/-- A name that is registered stays as it is, unless it is to be replaced. -/
theorem register_of_known {r : Registry} {name : String} (known : Text.lower name ∈ r.registered)
    (t : Target) (aliases : Value) :
    r.register (.str name) (.generator t) aliases false = (r, none) := by
  rw [register, nameOf_str]
  dsimp only
  rw [lookup_isSome_iff.2 known]
  rfl

theorem elements_texts (aliases : List String) :
    ((Value.list (aliases.map .str)).orElse (.list [])).elements = .ok (aliases.map .str) := by
  cases aliases with
  | nil => rfl
  | cons g gs => rfl

/-- What may replace others is not refused. -/
theorem addAlias_replacing (r : Registry) (name given : String) :
    r.addAlias name true (.str given) =
      .ok (if Text.lower given = name then r
        else { r with aliases := assign r.aliases (Text.lower given) name }) := by
  rw [addAlias_str, if_pos rfl]
  split
  · rfl
  · rfl

theorem addAliases_replacing (r : Registry) (name : String) (given : List String) :
    (r.addAliases name true (given.map .str)).2 = none := by
  induction given generalizing r with
  | nil => rfl
  | cons g gs ih =>
      rw [List.map_cons, Registry.addAliases, addAlias_replacing]
      exact ih _

theorem register_replacing (r : Registry) (name : String) (t : Target) (aliases : List String) :
    r.register (.str name) (.generator t) (.list (aliases.map .str)) true =
      ({ r with generators := assign r.generators (Text.lower name) t } : Registry).addAliases
        (Text.lower name) true (aliases.map .str) := by
  rw [register, nameOf_str]
  dsimp only
  rw [Bool.not_true, Bool.and_false, if_neg Bool.false_ne_true, elements_texts]

/-- A registration fails because what it offers is no generator, and then it changes nothing. Or it
fails because an alias of a new name is refused: then the name stays, with the aliases before that
one, and the registry is not what it was. -/
theorem register_refused {r next : Registry} {name : String} {offered : Candidate}
    {aliases : List String} {replace : Bool} {failure : RegistryFailure}
    (h : r.register (.str name) offered (.list (aliases.map .str)) replace =
      (next, some failure)) :
    (next = r ↔ offered = .other) ∧
      ∀ t, offered = .generator t → replace = false ∧ Text.lower name ∉ r.registered ∧
        ∃ before given after, aliases = before ++ given :: after ∧
          (r.withName (Text.lower name) t).Adds (Text.lower name) before next ∧
          next.Refuses (Text.lower name) given failure := by
  cases offered with
  | other =>
      cases h
      exact ⟨by simp, fun t ht => by cases ht⟩
  | generator t =>
      have notReplaced : replace = false := by
        cases replace with
        | false => rfl
        | true =>
            rw [register_replacing] at h
            cases (addAliases_replacing _ _ _).symm.trans (congrArg Prod.snd h)
      subst notReplaced
      have new : Text.lower name ∉ r.registered := fun known => by
        rw [register_of_known known] at h
        cases h
      rw [register_of_new new, elements_texts] at h
      obtain ⟨before, given, after, eq, adds, refused⟩ := (Adds.refl _ _).refuses_of_addAliases h
      refine ⟨iff_of_false (fun same => ?_) (by simp), fun u hu => ?_⟩
      · subst same
        have longer := congrArg List.length adds.generators
        simp [withName] at longer
      · cases hu
        exact ⟨rfl, new, before, given, after, eq, adds, refused⟩

/-- One target with one alias. -/
def declarationsOnly : List Operation :=
  [.register "typescript" (.generator .typeScript) ["ts"] false]

/-- The second of two new aliases of a new name is refused. -/
theorem schemas_refused :
    ∃ next, (reached declarationsOnly).register (.str "Zod") (.generator .zod)
        (.list (["Z", "z", "TS", "y"].map .str)) false =
          (next, some (.aliasTaken "TS" "typescript")) ∧
      next ≠ reached declarationsOnly ∧
      ∃ before given after, ["Z", "z", "TS", "y"] = before ++ given :: after ∧
        ((reached declarationsOnly).withName "zod" .zod).Adds "zod" before next ∧
        next.Refuses "zod" given (.aliasTaken "TS" "typescript") := by
  have refused : (reached declarationsOnly).register (.str "Zod") (.generator .zod)
      (.list (["Z", "z", "TS", "y"].map .str)) false =
        (⟨[("typescript", .typeScript), ("zod", .zod)], [("ts", "typescript"), ("z", "zod")]⟩,
          some (.aliasTaken "TS" "typescript")) := by rfl
  obtain ⟨same, left⟩ := register_refused refused
  obtain ⟨_, _, kept⟩ := left .zod rfl
  exact ⟨_, refused, fun h => (by simp : Candidate.generator .zod ≠ .other) (same.1 h), kept⟩

/-- A registration that fails and leaves a name and an alias behind. -/
theorem register_leaves_name :
    (reached declarationsOnly).register (.str "zod") (.generator .zod)
        (.list [.str "z", .str "ts"]) false =
          (⟨[("typescript", .typeScript), ("zod", .zod)], [("ts", "typescript"), ("z", "zod")]⟩,
            some (.aliasTaken "ts" "typescript")) ∧
      (reached declarationsOnly).generators = [("typescript", .typeScript)] ∧
      (reached declarationsOnly).aliases = [("ts", "typescript")] ∧
      ¬ ∀ (operations : List Operation) (name : String) (offered : Candidate)
          (aliases : List String) (replace : Bool) (next : Registry) (failure : RegistryFailure),
        (reached operations).register (.str name) offered (.list (aliases.map .str)) replace =
          (next, some failure) → next = reached operations := by
  have refused : (reached declarationsOnly).register (.str "zod") (.generator .zod)
      (.list [.str "z", .str "ts"]) false =
        (⟨[("typescript", .typeScript), ("zod", .zod)], [("ts", "typescript"), ("z", "zod")]⟩,
          some (.aliasTaken "ts" "typescript")) := by rfl
  refine ⟨refused, rfl, rfl, fun unchanged => ?_⟩
  have same := congrArg (fun r : Registry => r.generators.length)
    (unchanged declarationsOnly "zod" (.generator .zod) ["z", "ts"] false _ _ refused)
  cases same

/-! ## Undoing a registration -/

theorem unregister_str (r : Registry) (name : String) :
    r.unregister (.str name) = .ok {
      generators := r.generators.filter fun e => e.1 ≠ Text.lower name
      aliases := r.aliases.filter fun e => e.2 ≠ Text.lower name } := rfl

/-- In a sound registry nothing is kept under a name that is not registered. -/
theorem Sound.filter_eq_self {r : Registry} (h : r.Sound) {key : String}
    (new : key ∉ r.registered) :
    (r.generators.filter fun e => e.1 ≠ key) = r.generators ∧
      (r.aliases.filter fun e => e.2 ≠ key) = r.aliases := by
  constructor
  · refine List.filter_eq_self.2 fun e he => decide_eq_true fun same => new ?_
    exact same ▸ List.mem_map_of_mem he
  · refine List.filter_eq_self.2 fun e he => decide_eq_true fun same => new ?_
    exact same ▸ h.owners e he

/-- What was added under a new name is all that goes with it. -/
theorem Adds.unregister {r next : Registry} {name : String} {t : Target} {given : List String}
    (h : (r.withName (Text.lower name) t).Adds (Text.lower name) given next) (sound : r.Sound)
    (new : Text.lower name ∉ r.registered) : next.unregister (.str name) = .ok r := by
  obtain ⟨added, eq, _, _⟩ := h.aliases
  obtain ⟨generators, aliases⟩ := sound.filter_eq_self new
  have gone : (added.map (·, Text.lower name)).filter (fun e => e.2 ≠ Text.lower name) = [] := by
    refine List.filter_eq_nil_iff.2 fun e he => ?_
    obtain ⟨byname, _, rfl⟩ := List.mem_map.1 he
    simp
  rw [unregister_str, h.generators, eq, withName, List.filter_append, List.filter_append,
    generators, aliases, gone]
  simp

/-- Unregistering a name that was registered for the first time takes away what that has added,
however it ended, and nothing else. -/
theorem unregister_register {operations : List Operation} {name : String}
    (new : Text.lower name ∉ (reached operations).registered) (offered : Candidate)
    (aliases : Value) :
    ((reached operations).register (.str name) offered aliases false).1.unregister (.str name) =
      .ok (reached operations) := by
  have sound := reached_sound operations
  cases offered with
  | other =>
      obtain ⟨generators, aliases⟩ := sound.filter_eq_self new
      change (reached operations).unregister (.str name) = _
      rw [unregister_str, generators, aliases]
  | generator t =>
      rw [register_of_new new]
      cases (aliases.orElse (.list [])).elements with
      | error m => exact (Adds.refl _ _).unregister sound new
      | ok vs =>
          obtain ⟨_, _, _, adds, _⟩ := (Adds.refl _ _).addAliases
            (Prod.eta ((reached operations).withName _ t |>.addAliases _ false vs)).symm
          exact adds.unregister sound new

/-- A name whose third alias was refused is gone with the first two. -/
theorem schemas_unregistered :
    Text.lower "Zod" ∉ (reached declarationsOnly).registered ∧
      ((reached declarationsOnly).register (.str "Zod") (.generator .zod)
        (.list (["Z", "zod", "y", "TS"].map .str)) false).1.bynames = ["ts", "z", "y"] ∧
      ((reached declarationsOnly).register (.str "Zod") (.generator .zod)
        (.list (["Z", "zod", "y", "TS"].map .str)) false).1.unregister (.str "Zod") =
          .ok (reached declarationsOnly) := by
  have new : Text.lower "Zod" ∉ (reached declarationsOnly).registered := by decide
  exact ⟨new, rfl, unregister_register new _ _⟩

end Typewright.Registry
