import Mathlib.Data.List.Induction
import Typewright.Proofs.Registry.Registering

/-!
# Aliases that work

An alias works if resolving it gives the name for which it is listed. Names are looked at before
aliases, so an alias that is a registered name as well is shadowed: it is resolved to itself. This is
the only way in which a listed alias can fail, since aliases are kept in small letters, each once,
and none for itself (`reached_listed`).

An alias is compared with the registered names before it is added, and a new name with nothing. So a
name may be registered that is an alias already, and an alias that replaces what was there may be a
registered name. These are all the ways to shadow an alias (`apart_perform_iff`), and as long as
nothing of the kind is done every listed alias works (`listed_resolves_iff`).
-/

namespace Typewright.Registry

/-! ## How aliases are kept -/

/-- A registry with aliases in small letters, each once, and none for itself. -/
structure Listed (r : Registry) : Prop where
  /-- Aliases are in small letters. -/
  small : ∀ e ∈ r.aliases, Text.lower e.1 = e.1
  /-- No alias stands for itself. -/
  differ : ∀ e ∈ r.aliases, e.1 ≠ e.2
  /-- No alias is listed twice. -/
  nodup : r.bynames.Nodup

theorem map_fst_assign {α : Type} (m : List (String × α)) (name : String) (a : α) :
    (assign m name a).map Prod.fst =
      if name ∈ m.map Prod.fst then m.map Prod.fst else m.map Prod.fst ++ [name] := by
  induction m with
  | nil => simp [assign]
  | cons e rest ih =>
      rw [assign]
      by_cases h : e.1 = name
      · simp [h]
      · simp only [if_neg h, List.map_cons, ih, List.mem_cons, Ne.symm h, false_or]
        split
        · rfl
        · rfl

theorem nodup_assign {α : Type} {m : List (String × α)} (h : (m.map Prod.fst).Nodup) (name : String)
    (a : α) : ((assign m name a).map Prod.fst).Nodup := by
  rw [map_fst_assign]
  split
  next => exact h
  next new => exact List.concat_eq_append ▸ List.Nodup.concat new h

/-- An alias that is accepted, whether it may replace others or not, is the name or is given it. -/
theorem aliases_of_addAlias {r next : Registry} {name given : String} {replace : Bool}
    (h : r.addAlias name replace (.str given) = .ok next) :
    next = r ∨ Text.lower given ≠ name ∧
      next = { r with aliases := assign r.aliases (Text.lower given) name } := by
  rw [addAlias_str] at h
  split at h
  next =>
    cases h
    exact .inl rfl
  next differ =>
    split at h
    next => cases h
    next =>
      cases h
      exact .inr ⟨differ, rfl⟩

theorem Listed.addAlias {r next : Registry} {name given : String} {replace : Bool} (h : r.Listed)
    (hnext : r.addAlias name replace (.str given) = .ok next) : next.Listed := by
  obtain rfl | ⟨differ, rfl⟩ := aliases_of_addAlias hnext
  · exact h
  · refine ⟨fun e he => ?_, fun e he => ?_, nodup_assign h.nodup _ _⟩
    · obtain rfl | he := mem_assign he
      · exact Text.lower_lower given
      · exact h.small e he
    · obtain rfl | he := mem_assign he
      · exact differ
      · exact h.differ e he

theorem Listed.addAliases {r : Registry} (h : r.Listed) (name : String) (replace : Bool)
    (vs : List Value) : (r.addAliases name replace vs).1.Listed := by
  induction vs generalizing r with
  | nil => exact h
  | cons v vs ih =>
      rw [Registry.addAliases]
      split
      next next hnext =>
        obtain ⟨given, rfl⟩ := str_of_addAlias hnext
        exact ih (h.addAlias hnext)
      next => exact h

theorem Listed.register {r : Registry} (h : r.Listed) (name : String) (offered : Candidate)
    (aliases : Value) (replace : Bool) :
    (r.register (.str name) offered aliases replace).1.Listed := by
  cases offered with
  | other => exact h
  | generator t =>
      have named : Listed { r with generators := assign r.generators (Text.lower name) t } :=
        ⟨h.small, h.differ, h.nodup⟩
      rw [Registry.register, nameOf_str]
      dsimp only
      split
      · exact h
      · split
        · exact named
        · exact named.addAliases _ _ _

theorem Listed.perform {r : Registry} (h : r.Listed) (operation : Operation) :
    (r.perform operation).Listed := by
  cases operation with
  | register name offered aliases replace => exact h.register name offered _ replace
  | unregister name =>
      exact ⟨fun e he => h.small e (List.mem_of_mem_filter he),
        fun e he => h.differ e (List.mem_of_mem_filter he),
        h.nodup.sublist (List.filter_sublist.map _)⟩

theorem reached_concat (operations : List Operation) (operation : Operation) :
    reached (operations ++ [operation]) = (reached operations).perform operation := by
  rw [reached, List.foldl_append]
  rfl

theorem reached_listed (operations : List Operation) : (reached operations).Listed := by
  induction operations using List.reverseRecOn with
  | nil => exact ⟨by simp [reached, empty], by simp [reached, empty], List.nodup_nil⟩
  | append_singleton operations operation ih =>
      rw [reached_concat]
      exact ih.perform operation

/-! ## Resolving what is listed -/

theorem mem_aliasesOf {r : Registry} {name byname : String} :
    byname ∈ r.aliasesOf name ↔ (byname, name) ∈ r.aliases := by
  rw [aliasesOf, sorted, List.mem_mergeSort, List.mem_map]
  constructor
  · rintro ⟨e, he, rfl⟩
    obtain ⟨he, same⟩ := List.mem_filter.1 he
    exact of_decide_eq_true same ▸ he
  · intro h
    exact ⟨_, List.mem_filter.2 ⟨h, decide_eq_true rfl⟩, rfl⟩

theorem aliases?_str (r : Registry) (s : String) :
    r.aliases? (.str s) = .ok (r.aliasesOf (Text.lower s)) := rfl

theorem lookup_of_mem {α : Type} {m : List (String × α)} (nodup : (m.map Prod.fst).Nodup)
    {name : String} {a : α} (h : (name, a) ∈ m) : m.lookup name = some a := by
  obtain ⟨before, after, rfl⟩ := List.append_of_mem h
  refine List.lookup_eq_some_iff.2 ⟨before, after, rfl, fun e he => ?_⟩
  rw [List.map_append, List.nodup_append] at nodup
  simpa using Ne.symm (nodup.2.2 e.1 (List.mem_map_of_mem he) name (by simp))

/-- A listed alias is resolved to its name exactly if it is not shadowed. -/
theorem Listed.resolve_iff {r : Registry} (h : r.Listed) {name byname : String}
    (listed : (byname, name) ∈ r.aliases) :
    r.resolve (.str byname) = .ok name ↔ byname ∉ r.registered := by
  rw [resolve_eq_ok, h.small _ listed, resolve?]
  by_cases shadowed : byname ∈ r.registered
  · rw [if_pos (lookup_isSome_iff.2 shadowed), Option.some.injEq]
    exact iff_of_false (h.differ _ listed) (not_not_intro shadowed)
  · rw [if_neg (mt lookup_isSome_iff.1 shadowed)]
    exact iff_of_true (lookup_of_mem h.nodup listed) shadowed

/-! ## Names and aliases kept apart -/

/-- No alias is a registered name. -/
def Apart (r : Registry) : Prop := ∀ byname ∈ r.bynames, byname ∉ r.registered

instance (r : Registry) : Decidable r.Apart :=
  inferInstanceAs (Decidable (∀ byname ∈ r.bynames, byname ∉ r.registered))

/-- An operation that gives an alias or a name a second meaning: it registers a name that is an
alias, or replaces what an alias stands for that is another registered name. -/
def Operation.Shadows (r : Registry) : Operation → Prop
  | .register _ .other _ _ => False
  | .register name (.generator _) aliases replace =>
      Text.lower name ∈ r.bynames ∨ replace = true ∧
        ∃ given ∈ aliases, Text.lower given ≠ Text.lower name ∧ Text.lower given ∈ r.registered
  | .unregister _ => False

theorem registered_withName (r : Registry) (name : String) (t : Target) :
    (r.withName name t).registered = r.registered ++ [name] := by
  simp [registered, withName]

theorem generators_addAliases (r : Registry) (name : String) (replace : Bool) (vs : List Value) :
    (r.addAliases name replace vs).1.generators = r.generators := by
  induction vs generalizing r with
  | nil => rfl
  | cons v vs ih =>
      rw [addAliases]
      split
      next next hnext =>
        obtain ⟨given, rfl⟩ := str_of_addAlias hnext
        rw [ih]
        obtain rfl | ⟨_, rfl⟩ := aliases_of_addAlias hnext
        · rfl
        · rfl
      next => rfl

/-- What may replace others is added as it is given. -/
theorem mem_bynames_replacing (r : Registry) (name : String) (given : List String)
    {byname : String} :
    byname ∈ (r.addAliases name true (given.map .str)).1.bynames ↔
      byname ∈ r.bynames ∨ (∃ g ∈ given, Text.lower g = byname) ∧ byname ≠ name := by
  induction given generalizing r with
  | nil => simp [addAliases]
  | cons g gs ih =>
      rw [List.map_cons, addAliases, addAlias_replacing]
      simp only [ih, List.mem_cons, exists_eq_or_imp]
      by_cases same : Text.lower g = name
      · rw [if_pos same]
        constructor
        · rintro (old | ⟨later, differ⟩)
          · exact .inl old
          · exact .inr ⟨.inr later, differ⟩
        · rintro (old | ⟨rfl | later, differ⟩)
          · exact .inl old
          · exact absurd same differ
          · exact .inr ⟨later, differ⟩
      · rw [if_neg same, bynames, mem_map_fst_assign, ← bynames]
        constructor
        · rintro ((rfl | old) | ⟨later, differ⟩)
          · exact .inr ⟨.inl rfl, same⟩
          · exact .inl old
          · exact .inr ⟨.inr later, differ⟩
        · rintro (old | ⟨rfl | later, differ⟩)
          · exact .inl (.inr old)
          · exact .inl (.inl rfl)
          · exact .inr ⟨later, differ⟩

/-- Registering a name for the first time shadows an alias exactly if the name is one. -/
theorem apart_register_new {r : Registry} (h : r.Apart) {name : String}
    (new : Text.lower name ∉ r.registered) (t : Target) (aliases : List String) :
    (r.register (.str name) (.generator t) (.list (aliases.map .str)) false).1.Apart ↔
      Text.lower name ∉ r.bynames := by
  rw [register_of_new new, elements_texts]
  dsimp only
  obtain ⟨given, _, _, adds, _⟩ := (Adds.refl _ _).addAliases
    (Prod.eta ((r.withName (Text.lower name) t).addAliases (Text.lower name) false
      (aliases.map .str))).symm
  have names : ∀ byname, byname ∈ ((r.withName (Text.lower name) t).addAliases (Text.lower name)
      false (aliases.map .str)).1.registered ↔ byname ∈ r.registered ∨ byname = Text.lower name := by
    intro byname
    rw [registered, adds.generators, ← registered, registered_withName, List.mem_append,
      List.mem_singleton]
  constructor
  · intro apart isAlias
    exact apart _ (adds.bynames_iff.2 (.inl isAlias)) ((names _).2 (.inr rfl))
  · intro notAlias byname hb hr
    obtain old | fresh := adds.apart byname hb
    · obtain known | rfl := (names _).1 hr
      · exact h byname old known
      · exact notAlias old
    · rw [registered_withName, List.mem_append, List.mem_singleton] at fresh
      exact fresh ((names _).1 hr)

/-- A registration that replaces shadows an alias exactly if the name is one, or if an alias is
another registered name. -/
theorem apart_register_replacing {r : Registry} (h : r.Apart) (name : String) (t : Target)
    (aliases : List String) :
    (r.register (.str name) (.generator t) (.list (aliases.map .str)) true).1.Apart ↔
      Text.lower name ∉ r.bynames ∧
        ∀ given ∈ aliases, Text.lower given ≠ Text.lower name →
          Text.lower given ∉ r.registered := by
  rw [register_replacing]
  have names : ∀ byname, byname ∈ (({ r with
      generators := assign r.generators (Text.lower name) t } : Registry).addAliases
        (Text.lower name) true (aliases.map .str)).1.registered ↔
      byname = Text.lower name ∨ byname ∈ r.registered := by
    intro byname
    rw [registered, generators_addAliases, mem_map_fst_assign, ← registered]
  simp only [Apart, names, mem_bynames_replacing, not_or]
  constructor
  · intro apart
    refine ⟨fun isAlias => (apart _ (.inl isAlias)).1 rfl, fun given hg differ => ?_⟩
    exact (apart _ (.inr ⟨⟨given, hg, rfl⟩, differ⟩)).2
  · rintro ⟨notAlias, others⟩ byname (old | ⟨⟨given, hg, rfl⟩, differ⟩)
    · exact ⟨fun same => notAlias (same ▸ old), h byname old⟩
    · exact ⟨differ, others given hg differ⟩

theorem Apart.unregister {r next : Registry} (h : r.Apart) {name : String}
    (hnext : r.unregister (.str name) = .ok next) : next.Apart := by
  cases hnext
  intro byname hb hr
  obtain ⟨e, he, rfl⟩ := List.mem_map.1 hb
  obtain ⟨g, hg, same⟩ := List.mem_map.1 hr
  refine h e.1 (List.mem_map_of_mem (List.mem_of_mem_filter he)) ?_
  exact same ▸ List.mem_map_of_mem (List.mem_of_mem_filter hg)

/-- An operation keeps names and aliases apart exactly if it does not shadow. -/
theorem apart_perform_iff {r : Registry} (h : r.Apart) (operation : Operation) :
    (r.perform operation).Apart ↔ ¬ operation.Shadows r := by
  cases operation with
  | unregister name => exact iff_of_true (h.unregister rfl) id
  | register name offered aliases replace =>
      cases offered with
      | other => exact iff_of_true h id
      | generator t =>
          cases replace with
          | true =>
              refine (apart_register_replacing h name t aliases).trans ?_
              simp [Operation.Shadows]
          | false =>
              by_cases known : Text.lower name ∈ r.registered
              · rw [perform, register_of_known known]
                refine iff_of_true h ?_
                rintro (isAlias | ⟨replaces, _⟩)
                · exact h _ isAlias known
                · cases replaces
              · refine (apart_register_new h known t aliases).trans ?_
                simp [Operation.Shadows]

/-- A run in which nothing shadows keeps names and aliases apart. -/
theorem apart_reached {operations : List Operation}
    (clear : ∀ before operation after, operations = before ++ operation :: after →
      ¬ operation.Shadows (reached before)) : (reached operations).Apart := by
  induction operations using List.reverseRecOn with
  | nil => exact fun byname hb => absurd hb List.not_mem_nil
  | append_singleton operations operation ih =>
      rw [reached_concat]
      refine (apart_perform_iff (ih fun before op after split => ?_) operation).2
        (clear operations operation [] rfl)
      exact clear before op (after ++ [operation]) (by rw [split]; simp)

/-! ## Aliases of reached registries -/

/-- Every alias that is listed for a registered name is resolved to it. -/
def AliasesWork (r : Registry) : Prop :=
  ∀ name bynames, name ∈ r.registered → r.aliases? (.str name) = .ok bynames →
    ∀ byname ∈ bynames, r.resolve (.str byname) = .ok name

/-- In a registry that is reached, a listed alias is resolved to its name exactly if it is not a
registered name itself. So all of them are exactly if names and aliases are apart, and in particular
if no operation has shadowed an alias. -/
theorem listed_resolves_iff (operations : List Operation) :
    (∀ name bynames, name ∈ (reached operations).registered →
      (reached operations).aliases? (.str name) = .ok bynames → ∀ byname ∈ bynames,
        ((reached operations).resolve (.str byname) = .ok name ↔
          byname ∉ (reached operations).registered)) ∧
      ((reached operations).AliasesWork ↔ (reached operations).Apart) ∧
      ((∀ before operation after, operations = before ++ operation :: after →
        ¬ operation.Shadows (reached before)) → (reached operations).AliasesWork) := by
  have listed := reached_listed operations
  have sound := reached_sound operations
  have each : ∀ name bynames, name ∈ (reached operations).registered →
      (reached operations).aliases? (.str name) = .ok bynames → ∀ byname ∈ bynames,
        ((reached operations).resolve (.str byname) = .ok name ↔
          byname ∉ (reached operations).registered) := by
    intro name bynames known hb byname mem
    rw [aliases?_str, sound.small name known] at hb
    cases hb
    exact listed.resolve_iff (mem_aliasesOf.1 mem)
  have work : (reached operations).AliasesWork ↔ (reached operations).Apart := by
    constructor
    · intro works byname hb
      obtain ⟨e, he, rfl⟩ := List.mem_map.1 hb
      have known := sound.owners e he
      refine (listed.resolve_iff he).1 (works e.2 _ known (aliases?_str _ _) e.1 ?_)
      rw [sound.small e.2 known]
      exact mem_aliasesOf.2 he
    · intro apart name bynames known hb byname mem
      refine (each name bynames known hb byname mem).2 (apart byname ?_)
      rw [aliases?_str] at hb
      cases hb
      exact List.mem_map_of_mem (mem_aliasesOf.1 mem)
  exact ⟨each, work, fun clear => work.2 (apart_reached clear)⟩

/-- The registrations of all targets. -/
def standardOperations : List Operation :=
  [.register "typescript" (.generator .typeScript) ["ts"] false,
   .register "zod" (.generator .zod) [] false,
   .register "pg" (.generator .pg) ["postgres", "sql"] false]

/-- The aliases of all targets work. -/
theorem standard_aliases :
    Registry.standard = reached standardOperations ∧ (reached standardOperations).AliasesWork ∧
      (reached standardOperations).resolve (.str "sql") = .ok "pg" := by
  obtain ⟨each, work, _⟩ := listed_resolves_iff standardOperations
  have pg : "pg" ∈ (reached standardOperations).registered := by decide
  have sql : "sql" ∈ (reached standardOperations).aliasesOf "pg" := mem_aliasesOf.2 (by decide)
  refine ⟨rfl, work.2 (by decide), ?_⟩
  exact (each "pg" _ pg (aliases?_str _ _) "sql" sql).2 (by decide)

/-- A name that is registered after it was made an alias. -/
def shortNameTaken : List Operation :=
  [.register "typescript" (.generator .typeScript) ["ts"] false,
   .register "ts" (.generator .zod) [] false]

/-- An alias that is listed for one name and resolved to another. -/
theorem short_name_shadowed :
    "typescript" ∈ (reached shortNameTaken).registered ∧
      (reached shortNameTaken).aliases? (.str "typescript") = .ok ["ts"] ∧
      (reached shortNameTaken).resolve (.str "ts") = .ok "ts" ∧
      ¬ ∀ operations : List Operation, (reached operations).AliasesWork := by
  have known : "typescript" ∈ (reached shortNameTaken).registered := by decide
  have listed : (reached shortNameTaken).aliases? (.str "typescript") = .ok ["ts"] := by
    have only : (reached shortNameTaken).aliasesOf "typescript" = ["ts"] :=
      List.mergeSort_singleton "ts"
    exact congrArg Except.ok only
  have resolved : (reached shortNameTaken).resolve (.str "ts") = .ok "ts" := rfl
  refine ⟨known, listed, resolved, fun work => ?_⟩
  have same := resolved.symm.trans (work shortNameTaken "typescript" _ known listed "ts" (by simp))
  exact absurd (Except.ok.inj same) (by decide)

end Typewright.Registry
