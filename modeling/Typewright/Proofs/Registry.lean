import Typewright.Proofs.Outcome
import Typewright.Proofs.Text.LetterCase
import Typewright.Registry

/-!
# Registries that can be reached

A registry is reached by registering and taking away names, from the one without names. A
registration that is refused counts as well: what came before the refusal stays.

In every registry that is reached, aliases stand for registered names, and names are kept in small
letters (`reached_sound`). An alias is added only after the name it stands for, and a name is taken
away together with all its aliases. So whatever is supported is resolved, to a name that is listed,
has a target and resolves to itself (`reached_resolves`).
-/

namespace Typewright.Registry

/-! ## Reaching registries -/

/-- What is done with a registry. All names are texts. -/
inductive Operation where
  /-- A name and its aliases are registered. -/
  | register (name : String) (offered : Candidate) (aliases : List String) (replace : Bool)
  /-- A name is taken away. -/
  | unregister (name : String)

/-- A registry after an operation, also one that was refused. -/
def perform (r : Registry) : Operation → Registry
  | .register name offered aliases replace =>
      (r.register (.str name) offered (.list (aliases.map .str)) replace).1
  | .unregister name =>
      match r.unregister (.str name) with
      | .ok next => next
      | .error _ => r

/-- The registry that operations reach. -/
def reached (operations : List Operation) : Registry := operations.foldl perform empty

/-- The names that are registered, in the order in which they were first given. -/
def registered (r : Registry) : List String := r.generators.map Prod.fst

/-! ## What is found -/

theorem lookup_isSome_iff {α : Type} {m : List (String × α)} {name : String} :
    (m.lookup name).isSome = true ↔ name ∈ m.map Prod.fst := by
  induction m with
  | nil => simp
  | cons e rest ih =>
      obtain ⟨known, a⟩ := e
      by_cases h : name = known
      · simp [h]
      · have differ : (name == known) = false := by simp [h]
        rw [List.lookup_cons, differ, List.map_cons, List.mem_cons]
        exact ih.trans (or_iff_right h).symm

theorem mem_of_lookup {α : Type} {m : List (String × α)} {name : String} {a : α}
    (h : m.lookup name = some a) : (name, a) ∈ m := by
  obtain ⟨before, after, rfl, _⟩ := List.lookup_eq_some_iff.1 h
  simp

theorem mem_assign {α : Type} {m : List (String × α)} {name : String} {a : α} {e : String × α}
    (h : e ∈ assign m name a) : e = (name, a) ∨ e ∈ m := by
  induction m with
  | nil => exact .inl (List.mem_singleton.1 h)
  | cons first rest ih =>
      rw [assign] at h
      split at h
      · exact (List.mem_cons.1 h).imp_right (List.mem_cons_of_mem _)
      · cases List.mem_cons.1 h with
        | inl here => exact .inr (here ▸ List.mem_cons_self)
        | inr later => exact (ih later).imp_right (List.mem_cons_of_mem _)

theorem mem_map_fst_assign {α : Type} {m : List (String × α)} {name other : String} {a : α} :
    other ∈ (assign m name a).map Prod.fst ↔ other = name ∨ other ∈ m.map Prod.fst := by
  induction m with
  | nil => simp [assign]
  | cons first rest ih =>
      rw [assign]
      by_cases h : first.1 = name
      · simp [h]
      · simp [h, ih, or_left_comm]

theorem mem_names {r : Registry} {name : String} : name ∈ r.names ↔ name ∈ r.registered := by
  rw [names, sorted, List.mem_mergeSort, registered]

theorem nameOf_str (s : String) : nameOf (.str s) = .ok (Text.lower s) := rfl

theorem resolve?_eq_some {r : Registry} {name found : String} (h : r.resolve? name = some found) :
    (found = name ∧ name ∈ r.registered) ∨ (name, found) ∈ r.aliases := by
  rw [resolve?] at h
  split at h
  next known =>
    cases h
    exact .inl ⟨rfl, lookup_isSome_iff.1 known⟩
  next => exact .inr (mem_of_lookup h)

theorem resolve_eq_ok {r : Registry} {s name : String} :
    r.resolve (.str s) = .ok name ↔ r.resolve? (Text.lower s) = some name := by
  rw [resolve, nameOf_str, ok_bind]
  cases r.resolve? (Text.lower s) with
  | none => simp [throw, throwThe, MonadExceptOf.throw]
  | some found => simp [pure, Except.pure]

theorem supports_eq {r : Registry} {s : String} :
    r.supports (.str s) = .ok (r.resolve? (Text.lower s)).isSome := by
  rw [supports, nameOf_str, ok_bind, pure_eq_ok, resolve?]
  split
  next known => simp [known]
  next unknown => simp [Bool.not_eq_true _ ▸ unknown]

/-! ## Registries that are sound -/

/-- A registry whose aliases stand for registered names, all in small letters. -/
structure Sound (r : Registry) : Prop where
  /-- Every alias stands for a registered name. -/
  owners : ∀ e ∈ r.aliases, e.2 ∈ r.registered
  /-- Registered names are in small letters. -/
  small : ∀ name ∈ r.registered, Text.lower name = name

theorem sound_empty : empty.Sound := ⟨by simp [empty], by simp [empty, registered]⟩

theorem addAlias_eq_ok {r next : Registry} {name : String} {replace : Bool} {v : Value}
    (h : r.addAlias name replace v = .ok next) :
    next = r ∨ ∃ byname, next = { r with aliases := assign r.aliases byname name } := by
  rw [addAlias] at h
  split at h
  next given _ =>
    rw [pure_bind] at h
    dsimp only at h
    split at h
    · exact .inl (pure_eq_ok.1 h).symm
    split at h
    · cases h
    · exact .inr ⟨Text.lower given, (pure_eq_ok.1 h).symm⟩
  next => cases h

theorem Sound.addAliases {r : Registry} {name : String} {replace : Bool} (vs : List Value)
    (h : r.Sound) (known : name ∈ r.registered) : (r.addAliases name replace vs).1.Sound := by
  induction vs generalizing r with
  | nil => exact h
  | cons v vs ih =>
      rw [Registry.addAliases]
      split
      next next hnext =>
        obtain rfl | ⟨byname, rfl⟩ := addAlias_eq_ok hnext
        · exact ih h known
        · refine ih ⟨fun e he => ?_, h.small⟩ known
          obtain rfl | he := mem_assign he
          · exact known
          · exact h.owners e he
      · exact h

/-- What is refused halfway leaves a sound registry too, since the name comes before its aliases. -/
theorem Sound.register {r : Registry} (h : r.Sound) (name : String) (offered : Candidate)
    (aliases : Value) (replace : Bool) :
    (r.register (.str name) offered aliases replace).1.Sound := by
  cases offered with
  | other => exact h
  | generator t =>
      rw [Registry.register, nameOf_str]
      dsimp only
      split
      · exact h
      have named : Sound { r with generators := assign r.generators (Text.lower name) t } := by
        refine ⟨fun e he => mem_map_fst_assign.2 (.inr (h.owners e he)), fun other ho => ?_⟩
        obtain rfl | ho := mem_map_fst_assign.1 ho
        · exact Text.lower_lower name
        · exact h.small other ho
      split
      · exact named
      · exact named.addAliases _ (mem_map_fst_assign.2 (.inl rfl))

theorem Sound.unregister {r next : Registry} {name : Value} (h : r.Sound)
    (hnext : r.unregister name = .ok next) : next.Sound := by
  obtain ⟨key, _, hnext⟩ := bind_eq_ok.1 hnext
  cases pure_eq_ok.1 hnext
  have kept {other : String} : other ∈ (r.generators.filter fun e => e.1 ≠ key).map Prod.fst ↔
      other ∈ r.registered ∧ other ≠ key := by
    simp only [registered, List.mem_map, List.mem_filter, decide_eq_true_eq]
    constructor
    · rintro ⟨e, ⟨he, differ⟩, rfl⟩
      exact ⟨⟨e, he, rfl⟩, differ⟩
    · rintro ⟨⟨e, he, rfl⟩, differ⟩
      exact ⟨e, ⟨he, differ⟩, rfl⟩
  refine ⟨fun e he => ?_, fun other ho => h.small other (kept.1 ho).1⟩
  obtain ⟨he, differ⟩ := List.mem_filter.1 he
  exact kept.2 ⟨h.owners e he, of_decide_eq_true differ⟩

theorem Sound.perform {r : Registry} (h : r.Sound) (operation : Operation) :
    (r.perform operation).Sound := by
  cases operation with
  | register name offered aliases replace => exact h.register name offered _ replace
  | unregister name =>
      rw [Registry.perform]
      split
      next next hnext => exact h.unregister hnext
      next => exact h

theorem reached_sound (operations : List Operation) : (reached operations).Sound := by
  have run : ∀ r : Registry, r.Sound → (operations.foldl Registry.perform r).Sound := by
    induction operations with
    | nil => exact fun _ h => h
    | cons operation rest ih => exact fun r h => ih _ (h.perform operation)
  exact run empty sound_empty

/-! ## Resolving -/

/-- What a sound registry resolves is a registered name, which resolves to itself. -/
theorem Sound.resolve? {r : Registry} (h : r.Sound) {name found : String}
    (hfound : r.resolve? name = some found) :
    found ∈ r.registered ∧ r.resolve? (Text.lower found) = some found := by
  have known : found ∈ r.registered := by
    obtain ⟨rfl, known⟩ | owned := resolve?_eq_some hfound
    · exact known
    · exact h.owners _ owned
  refine ⟨known, ?_⟩
  rw [h.small found known, Registry.resolve?, if_pos (lookup_isSome_iff.2 known)]

theorem Sound.exists_target_iff {r : Registry} (h : r.Sound) (s : String) :
    (∃ t, r.target (.str s) = .ok t) ↔ ∃ name, r.resolve (.str s) = .ok name := by
  constructor
  · rintro ⟨t, ht⟩
    obtain ⟨name, hname, _⟩ := bind_eq_ok.1 ht
    exact ⟨name, hname⟩
  · rintro ⟨name, hname⟩
    have known := (h.resolve? (resolve_eq_ok.1 hname)).1
    obtain ⟨t, ht⟩ := Option.isSome_iff_exists.1 (lookup_isSome_iff.2 known)
    refine ⟨t, ?_⟩
    rw [target, hname, ok_bind, ht]
    rfl

/-- In a registry that is reached, aliases stand for registered names; what is supported is what is
resolved and what has a target, and it is resolved to a listed name that resolves to itself. -/
theorem reached_resolves (operations : List Operation) :
    (∀ e ∈ (reached operations).aliases, e.2 ∈ (reached operations).registered) ∧
      ∀ s : String,
        ((reached operations).supports (.str s) = .ok true ↔
          ∃ name, (reached operations).resolve (.str s) = .ok name) ∧
        ((∃ name, (reached operations).resolve (.str s) = .ok name) ↔
          ∃ t, (reached operations).target (.str s) = .ok t) ∧
        ∀ name, (reached operations).resolve (.str s) = .ok name →
          name ∈ (reached operations).names ∧
            (reached operations).resolve (.str name) = .ok name := by
  have sound := reached_sound operations
  refine ⟨sound.owners, fun s => ⟨?_, (sound.exists_target_iff s).symm, fun name hname => ?_⟩⟩
  · rw [supports_eq, Except.ok.injEq, Option.isSome_iff_exists]
    exact exists_congr fun name => resolve_eq_ok.symm
  · obtain ⟨known, again⟩ := sound.resolve? (resolve_eq_ok.1 hname)
    exact ⟨mem_names.2 known, resolve_eq_ok.2 again⟩

end Typewright.Registry
