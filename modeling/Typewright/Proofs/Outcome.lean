import Mathlib.Data.List.Forall2
import Typewright.Fault

/-!
# Steps that may fail

A computation with `Except` succeeds exactly when each of its steps does. `bind_eq_ok` takes a
sequence of two steps apart, and `mapM_eq_ok` a list of them: the results stand beside the items
(`List.Forall₂`). What is needed of a long computation follows from these two, step by step, and
no proof has to unfold the monad. It fails exactly when one of them does after others that succeed
(`bind_eq_error`, `foldlM_eq_error`).
-/

namespace Typewright

section Steps

variable {ε α β γ : Type}

/-! ## One step after the other -/

theorem bind_eq_ok {x : Except ε α} {f : α → Except ε β} {b : β} :
    (x >>= f) = .ok b ↔ ∃ a, x = .ok a ∧ f a = .ok b := by
  cases x with
  | error e => simp [bind, Except.bind]
  | ok a => simp [bind, Except.bind]

theorem bind_eq_error {x : Except ε α} {f : α → Except ε β} {e : ε} :
    (x >>= f) = .error e ↔ x = .error e ∨ ∃ a, x = .ok a ∧ f a = .error e := by
  cases x with
  | error e' => simp [bind, Except.bind]
  | ok a => simp [bind, Except.bind]

theorem map_eq_ok {x : Except ε α} {f : α → β} {b : β} :
    x.map f = .ok b ↔ ∃ a, x = .ok a ∧ f a = b := by
  cases x with
  | error e => simp [Except.map]
  | ok a => simp [Except.map]

theorem pure_eq_ok {a b : α} : (pure a : Except ε α) = .ok b ↔ a = b := by
  simp [pure, Except.pure]

@[simp] theorem ok_bind (a : α) (f : α → Except ε β) : (Except.ok a >>= f) = f a := rfl

@[simp] theorem error_ne_ok {e : ε} {a : α} : (Except.error e : Except ε α) ≠ .ok a := by
  intro h
  cases h

theorem ok_of_toOption {x : Except ε α} {a : α} (h : x.toOption = some a) : x = .ok a := by
  cases x with
  | error e => cases h
  | ok b => exact congrArg Except.ok (Option.some.inj h)

/-- A misuse aside, a step that can only be misused is the step itself. -/
theorem ofMisuse_eq_ok {x : Except Misuse α} {a : α} : Outcome.ofMisuse x = .ok a ↔ x = .ok a := by
  cases x with
  | error m => simp [Outcome.ofMisuse]
  | ok b => simp [Outcome.ofMisuse]

theorem mismatched_ne_ok {m : Mismatch} {a : α} : (mismatched m : Outcome α) ≠ .ok a := error_ne_ok

/-! ## Lists of steps -/

theorem mapM_eq_ok {f : α → Except ε β} :
    ∀ {l : List α} {bs : List β}, l.mapM f = .ok bs ↔ List.Forall₂ (fun a b => f a = .ok b) l bs
  | [], bs => by
      rw [List.mapM_nil, pure_eq_ok, List.forall₂_nil_left_iff]
      exact eq_comm
  | a :: l, bs => by
      rw [List.mapM_cons, bind_eq_ok, List.forall₂_cons_left_iff]
      constructor
      · rintro ⟨b, hb, h⟩
        obtain ⟨bs', hl, h⟩ := bind_eq_ok.1 h
        exact ⟨b, bs', hb, mapM_eq_ok.1 hl, (pure_eq_ok.1 h).symm⟩
      · rintro ⟨b, bs', hb, hl, rfl⟩
        exact ⟨b, hb, bind_eq_ok.2 ⟨bs', mapM_eq_ok.2 hl, rfl⟩⟩

/-- Steps one after the other fail at a step that all before it lead to. -/
theorem foldlM_eq_error {f : β → α → Except ε β} {e : ε} : ∀ {l : List α} {b : β},
    l.foldlM f b = .error e ↔ ∃ before a after c, l = before ++ a :: after ∧
      before.foldlM f b = .ok c ∧ f c a = .error e
  | [], b => by
      rw [List.foldlM_nil]
      refine iff_of_false (fun h => by cases h) ?_
      rintro ⟨before, a, after, c, none, -⟩
      exact List.append_ne_nil_of_right_ne_nil before (List.cons_ne_nil a after) none.symm
  | a :: l, b => by
      rw [List.foldlM_cons, bind_eq_error]
      constructor
      · rintro (fails | ⟨c, step, rest⟩)
        · exact ⟨[], a, l, b, rfl, rfl, fails⟩
        · obtain ⟨before, a', after, d, rfl, leads, fails⟩ := foldlM_eq_error.1 rest
          refine ⟨a :: before, a', after, d, rfl, ?_, fails⟩
          rw [List.foldlM_cons, step, ok_bind, leads]
      · rintro ⟨before, a', after, d, parts, leads, fails⟩
        cases before with
        | nil =>
            cases parts
            cases leads
            exact .inl fails
        | cons first before =>
            cases parts
            rw [List.foldlM_cons, bind_eq_ok] at leads
            obtain ⟨c, step, leads⟩ := leads
            exact .inr ⟨c, step, foldlM_eq_error.2 ⟨before, a', after, d, rfl, leads, fails⟩⟩

theorem exists_right_of_forall₂ {R : α → β → Prop} {l : List α} {bs : List β}
    (h : List.Forall₂ R l bs) : ∀ a ∈ l, ∃ b ∈ bs, R a b := by
  intro a ha
  induction h with
  | nil => cases ha
  | @cons x y xs ys hxy _ ih =>
      cases List.mem_cons.1 ha with
      | inl e => exact ⟨y, List.mem_cons_self, e ▸ hxy⟩
      | inr m =>
          obtain ⟨b, hb, hf⟩ := ih m
          exact ⟨b, List.mem_cons_of_mem _ hb, hf⟩

theorem exists_left_of_forall₂ {R : α → β → Prop} {l : List α} {bs : List β}
    (h : List.Forall₂ R l bs) : ∀ b ∈ bs, ∃ a ∈ l, R a b :=
  exists_right_of_forall₂ (List.Forall₂.flip (R := flip R) h)

/-- Every item of a list has its result among the results. -/
theorem mapM_ok_mem {f : α → Except ε β} {l : List α} {bs : List β} (h : l.mapM f = .ok bs) :
    ∀ a ∈ l, ∃ b ∈ bs, f a = .ok b :=
  exists_right_of_forall₂ (mapM_eq_ok.1 h)

/-- Every result is that of an item of the list. -/
theorem mapM_ok_mem_result {f : α → Except ε β} {l : List α} {bs : List β}
    (h : l.mapM f = .ok bs) : ∀ b ∈ bs, ∃ a ∈ l, f a = .ok b :=
  exists_left_of_forall₂ (mapM_eq_ok.1 h)

/-- A list of steps succeeds exactly when each step does. -/
theorem exists_mapM_eq_ok {f : α → Except ε β} {l : List α} :
    (∃ bs, l.mapM f = .ok bs) ↔ ∀ a ∈ l, ∃ b, f a = .ok b := by
  constructor
  · rintro ⟨bs, h⟩ a ha
    obtain ⟨b, _, hb⟩ := mapM_ok_mem h a ha
    exact ⟨b, hb⟩
  · intro h
    induction l with
    | nil => exact ⟨[], rfl⟩
    | cons a l ih =>
        obtain ⟨b, hb⟩ := h a List.mem_cons_self
        obtain ⟨bs, hbs⟩ := ih fun x hx => h x (List.mem_cons_of_mem _ hx)
        exact ⟨b :: bs, mapM_eq_ok.2 (.cons hb (mapM_eq_ok.1 hbs))⟩

/-- Steps on changed items that have the old results make the old list of results. -/
theorem mapM_map_eq_ok {f : α → Except ε β} {g : γ → Except ε β} {change : α → γ} {l : List α}
    {bs : List β} (keeps : ∀ a ∈ l, ∀ b, f a = .ok b → g (change a) = .ok b)
    (h : l.mapM f = .ok bs) : (l.map change).mapM g = .ok bs := by
  induction l generalizing bs with
  | nil => exact h
  | cons a l ih =>
      rw [List.mapM_cons] at h
      obtain ⟨b, hb, h⟩ := bind_eq_ok.1 h
      obtain ⟨bs', hl, h⟩ := bind_eq_ok.1 h
      rw [List.map_cons, List.mapM_cons, keeps a List.mem_cons_self b hb, ok_bind,
        ih (fun x hx => keeps x (List.mem_cons_of_mem _ hx)) hl]
      exact h

/-- Two lists of steps over the same items have results with the same images. -/
theorem map_eq_of_mapM {δ : Type} {f : α → Except ε β} {g : α → Except ε γ} {p : β → δ} {q : γ → δ}
    {l : List α} {bs : List β} {cs : List γ}
    (same : ∀ a b c, f a = .ok b → g a = .ok c → p b = q c) (hf : l.mapM f = .ok bs)
    (hg : l.mapM g = .ok cs) : bs.map p = cs.map q := by
  rw [mapM_eq_ok] at hf hg
  induction hf generalizing cs with
  | nil =>
      cases hg
      rfl
  | cons hab _ ih =>
      cases hg with
      | cons hac hg => rw [List.map_cons, List.map_cons, same _ _ _ hab hac, ih hg]

/-- The images of the results that are there are those of the items that are kept. -/
theorem map_filterMap_of_mapM {f : α → Except ε (Option β)} {keep : α → Bool} {p : β → γ}
    {q : α → γ} {l : List α} {os : List (Option β)}
    (each : ∀ a ∈ l, ∀ o, f a = .ok o → o.map p = if keep a then some (q a) else none)
    (h : l.mapM f = .ok os) : (os.filterMap id).map p = (l.filter keep).map q := by
  rw [mapM_eq_ok] at h
  induction h with
  | nil => rfl
  | @cons a o l os hao _ ih =>
      have ho := each a List.mem_cons_self o hao
      have ih := ih fun x hx => each x (List.mem_cons_of_mem _ hx)
      cases hk : keep a with
      | false =>
          rw [hk, if_neg Bool.false_ne_true, Option.map_eq_none_iff] at ho
          rw [ho, List.filter_cons_of_neg (by simp [hk]), ← ih]
          rfl
      | true =>
          rw [hk, if_pos rfl, Option.map_eq_some_iff] at ho
          obtain ⟨b, rfl, hb⟩ := ho
          rw [List.filter_cons_of_pos hk, List.map_cons, ← ih, ← hb]
          rfl

end Steps

end Typewright
