import Typewright.Proofs.Entries

/-!
# Plain values, and how deep values are

A *plain* value is one that a document can be expected to hold: no number in it is NaN, and no
object in it gives a name twice. A plain value is the same as itself (`same_self`), which other
values need not be.

The *height* of a value says how many lists and objects lie inside each other in it. A value that
agrees with another is at most as high (`height_le_of_agrees`), and what a table is made of is less
high than the value that the table was read from (`height_lt_of_ofValue`). So nothing agrees with a
value that it holds.
-/

namespace Typewright

namespace Value

/-! ## Plain values -/

/-- A value without NaN, and without objects that give a name twice. -/
inductive Plain : Value → Prop where
  | null : Plain null
  | bool (b : Bool) : Plain (bool b)
  | int (n : Int) : Plain (int n)
  | double {d : Double} (number : d.isNaN = false) : Plain (double d)
  | str (s : String) : Plain (str s)
  | list {vs : List Value} (items : ∀ v ∈ vs, Plain v) : Plain (list vs)
  | object {es : Entries} (nodup : (es.map Prod.fst).Nodup) (values : ∀ e ∈ es, Plain e.2) :
      Plain (object es)

theorem agreeAll_self {vs : List Value} (h : ∀ v ∈ vs, agrees v v = true) :
    agreeAll vs vs = true := by
  induction vs with
  | nil => rfl
  | cons v vs ih =>
      rw [agreeAll, h v List.mem_cons_self, ih fun w hw => h w (List.mem_cons_of_mem _ hw)]
      rfl

theorem entriesAgree_iff {es fs : Entries} : entriesAgree es fs = true ↔
    ∀ e ∈ es, ∃ w, fs.get? e.1 = some w ∧ agrees e.2 w = true := by
  induction es with
  | nil => simp [entriesAgree]
  | cons e rest ih =>
      obtain ⟨name, v⟩ := e
      rw [entriesAgree, Bool.and_eq_true, ih, List.forall_mem_cons]
      refine and_congr_left fun _ => ?_
      cases fs.get? name with
      | none => simp
      | some w => simp

theorem Plain.agrees_self {v : Value} (h : v.Plain) : agrees v v = true := by
  induction h with
  | list _ ih =>
      rw [agrees]
      exact agreeAll_self ih
  | @object es nodup _ ih =>
      have entries : entriesAgree es es = true :=
        entriesAgree_iff.2 fun e he => ⟨e.2, Entries.get?_of_mem nodup he, ih e he⟩
      rw [agrees, beq_self_eq_true, entries]
      rfl
  | _ => simp [agrees, key?]

theorem Plain.isNaN {v : Value} (h : v.Plain) : v.isNaN = false := by
  cases h with
  | double number => exact number
  | _ => rfl

theorem Plain.same_self {v : Value} (h : v.Plain) : v.same v = true := by
  rw [same, h.isNaN, h.agrees_self]
  rfl

/-! ## Heights -/

mutual

/-- How many lists and objects lie inside each other. -/
def height : Value → Nat
  | list vs => itemsHeight vs + 1
  | object es => entriesHeight es + 1
  | _ => 0

/-- The greatest height of the items of a list. -/
def itemsHeight : List Value → Nat
  | [] => 0
  | v :: vs => max (height v) (itemsHeight vs)

/-- The greatest height of the values of an object. -/
def entriesHeight : List (String × Value) → Nat
  | [] => 0
  | (_, v) :: es => max (height v) (entriesHeight es)

end

theorem height_le_itemsHeight {v : Value} {vs : List Value} (h : v ∈ vs) :
    v.height ≤ itemsHeight vs := by
  induction vs with
  | nil => cases h
  | cons w vs ih =>
      rw [itemsHeight]
      cases List.mem_cons.1 h with
      | inl here => exact here ▸ Nat.le_max_left _ _
      | inr later => exact Nat.le_trans (ih later) (Nat.le_max_right _ _)

theorem height_le_entriesHeight {e : String × Value} {es : Entries} (h : e ∈ es) :
    e.2.height ≤ entriesHeight es := by
  induction es with
  | nil => cases h
  | cons f es ih =>
      rw [entriesHeight]
      cases List.mem_cons.1 h with
      | inl here => exact here ▸ Nat.le_max_left _ _
      | inr later => exact Nat.le_trans (ih later) (Nat.le_max_right _ _)

mutual

/-- A value that agrees with another is at most as high. -/
theorem height_le_of_agrees : ∀ {v w : Value}, agrees v w = true → v.height ≤ w.height
  | list vs, list ws, h => by
      rw [agrees] at h
      rw [height, height]
      exact Nat.succ_le_succ (itemsHeight_le_of_agreeAll h)
  | object es, object fs, h => by
      rw [agrees, Bool.and_eq_true] at h
      rw [height, height]
      exact Nat.succ_le_succ (entriesHeight_le_of_entriesAgree h.2)
  | list _, null, h | list _, bool _, h | list _, int _, h | list _, double _, h
  | list _, str _, h | list _, object _, h => by simp [agrees, key?] at h
  | object _, null, h | object _, bool _, h | object _, int _, h | object _, double _, h
  | object _, str _, h | object _, list _, h => by simp [agrees, key?] at h
  | null, _, _ | bool _, _, _ | int _, _, _ | double _, _, _ | str _, _, _ => by simp [height]

theorem itemsHeight_le_of_agreeAll : ∀ {vs ws : List Value}, agreeAll vs ws = true →
    itemsHeight vs ≤ itemsHeight ws
  | [], _, _ => by simp [itemsHeight]
  | _ :: _, [], h => by simp [agreeAll] at h
  | v :: vs, w :: ws, h => by
      rw [agreeAll, Bool.and_eq_true] at h
      rw [itemsHeight, itemsHeight]
      have first := height_le_of_agrees h.1
      have others := itemsHeight_le_of_agreeAll h.2
      omega

theorem entriesHeight_le_of_entriesAgree : ∀ {es fs : Entries}, entriesAgree es fs = true →
    entriesHeight es ≤ entriesHeight fs
  | [], _, _ => by simp [entriesHeight]
  | (name, v) :: es, fs, h => by
      rw [entriesAgree, Bool.and_eq_true] at h
      rw [entriesHeight]
      have others := entriesHeight_le_of_entriesAgree h.2
      have first := h.1
      split at first
      next w found =>
        have agree := height_le_of_agrees first
        have member := height_le_entriesHeight (Entries.mem_of_get? found)
        dsimp only at member
        omega
      next => cases first

end

theorem height_le_of_mem_elements {v w : Value} {vs : List Value} (h : v.elements? = some vs)
    (hw : w ∈ vs) : w.height ≤ v.height := by
  cases v with
  | list items =>
      cases h
      exact Nat.le_succ_of_le (height_le_itemsHeight hw)
  | object es =>
      cases h
      obtain ⟨e, _, rfl⟩ := List.mem_map.1 hw
      exact Nat.zero_le _
  | str s =>
      cases h
      obtain ⟨c, _, rfl⟩ := List.mem_map.1 hw
      exact Nat.zero_le _
  | _ => cases h

theorem height_le_of_same {v w : Value} (h : v.same w = true) : v.height ≤ w.height := by
  rw [same, Bool.and_eq_true] at h
  exact height_le_of_agrees h.2

end Value

/-! ## What a table is made of -/

namespace Table

theorem mem_put {t : Table} {name v : Value} {e : Value × Value} (h : e ∈ t.put name v) :
    e ∈ t ∨ (e.1.key? = name.key? ∧ e.2 = v) := by
  induction t with
  | nil =>
      rw [put, List.mem_singleton] at h
      exact .inr ⟨h ▸ rfl, h ▸ rfl⟩
  | cons first rest ih =>
      rw [put] at h
      split at h
      next known =>
        cases List.mem_cons.1 h with
        | inl here => exact .inr ⟨here ▸ known, here ▸ rfl⟩
        | inr later => exact .inl (List.mem_cons_of_mem _ later)
      next =>
        cases List.mem_cons.1 h with
        | inl here => exact .inl (here ▸ List.mem_cons_self)
        | inr later => exact (ih later).imp_left (List.mem_cons_of_mem _)

theorem mem_putAll {t new : Table} {e : Value × Value} (h : e ∈ t.putAll new) :
    e ∈ t ∨ ∃ f ∈ new, e.1.key? = f.1.key? ∧ e.2 = f.2 := by
  induction new generalizing t with
  | nil => exact .inl h
  | cons f new ih =>
      cases ih h with
      | inl put =>
          exact (mem_put put).imp_right fun same => ⟨f, List.mem_cons_self, same⟩
      | inr later =>
          obtain ⟨g, hg, same⟩ := later
          exact .inr ⟨g, List.mem_cons_of_mem _ hg, same⟩

theorem ofPair_eq_ok {position : Nat} {v name value : Value}
    (h : ofPair position v = .ok (name, value)) : v.elements? = some [name, value] := by
  rw [ofPair] at h
  split at h
  · cases h
  next first second pair =>
    cases hk : first.key with
    | error m =>
        rw [hk] at h
        cases h
    | ok k =>
        rw [hk] at h
        cases h
        exact pair
  · cases h

/-- A table made of pairs holds nothing but second elements of pairs. -/
theorem mem_addPairs {vs : List Value} : ∀ {done t : Table} {position : Nat} {e : Value × Value},
    addPairs done position vs = .ok t → e ∈ t →
      e ∈ done ∨ ∃ p ∈ vs, ∃ name, p.elements? = some [name, e.2] := by
  induction vs with
  | nil =>
      intro done t position e h he
      cases h
      exact .inl he
  | cons v vs ih =>
      intro done t position e h he
      rw [addPairs] at h
      cases hp : ofPair position v with
      | error m =>
          rw [hp] at h
          cases h
      | ok pair =>
          rw [hp] at h
          obtain put | ⟨p, hp', pair'⟩ := ih h he
          · obtain kept | ⟨_, value⟩ := mem_put put
            · exact .inl kept
            · exact .inr ⟨v, List.mem_cons_self, pair.1, value ▸ ofPair_eq_ok hp⟩
          · exact .inr ⟨p, List.mem_cons_of_mem _ hp', pair'⟩

/-- What a table holds is less high than the value that the table was read from. -/
theorem height_lt_of_ofValue {v : Value} {t : Table} (h : ofValue v = .ok t) {e : Value × Value}
    (he : e ∈ t) : e.2.height < v.height := by
  cases v with
  | object es =>
      cases h
      obtain ⟨f, hf, rfl⟩ := List.mem_map.1 he
      exact Nat.lt_succ_of_le (Value.height_le_entriesHeight hf)
  | list vs =>
      obtain found | ⟨p, hp, name, pair⟩ := mem_addPairs h he
      · cases found
      have inside : e.2.height ≤ p.height :=
        Value.height_le_of_mem_elements pair (List.mem_cons_of_mem _ List.mem_cons_self)
      exact Nat.lt_succ_of_le (Nat.le_trans inside (Value.height_le_itemsHeight hp))
  | str s =>
      -- The elements of a text are single characters, and no pairs.
      obtain found | ⟨p, hp, name, pair⟩ := mem_addPairs h he
      · cases found
      obtain ⟨c, _, rfl⟩ := List.mem_map.1 hp
      simp [Value.elements?, Value.charsOf] at pair
  | _ => cases h

end Table

end Typewright
