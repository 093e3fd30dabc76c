import Typewright.Path

/-!
# Ways between places

A path that is read from a text has *plain* parts: none is empty, and none has a slash in it. Plain
parts with slashes between them are read as they are (`ofString_intercalate`).

A place that a path was followed to is *settled*: no part of it leads upwards or stays where it is
(`settled_resolve`). The way between two places leaves the first one up to where both start with the
same parts and enters the second one from there. So following it leads to the second place
(`follow_between`), and it leads downwards only if the second place lies in the first one
(`between_append`).
-/

namespace Typewright.Path

/-! ## Parts -/

/-- A part of a path that is read from a text. -/
structure IsPlain (part : String) : Prop where
  something : part ≠ ""
  whole : '/' ∉ part.toList

theorem isPart_iff {part : String} : isPart part = true ↔ part ≠ "" ∧ part ≠ here := by
  simp [isPart]

theorem plain_up : IsPlain up := ⟨by decide, by decide⟩

theorem plain_of_mem_ofString {s part : String} (h : part ∈ (ofString s).parts) : IsPlain part := by
  obtain ⟨read, kept⟩ := List.mem_filter.1 h
  obtain ⟨piece, hpiece, rfl⟩ := List.mem_map.1 read
  refine ⟨(isPart_iff.1 kept).1, ?_⟩
  rw [String.toList_ofList]
  exact Text.not_mem_of_mem_split '/' s.toList piece hpiece

/-- What a path without the suffix of its name is made of. -/
theorem mem_of_withoutSuffix? {p q : Path} (h : p.withoutSuffix? = some q) {part : String}
    (hp : part ∈ q.parts) : part ∈ p.parts ∨ part = (cutSuffix p.name).1 := by
  rw [withoutSuffix?] at h
  split at h
  · cases h
  · cases h
    rcases List.mem_append.1 hp with hp | hp
    · exact Or.inl (List.dropLast_subset _ hp)
    · exact Or.inr (List.mem_singleton.1 hp)

theorem exists_withoutSuffix? {p : Path} (named : p.name ≠ "") :
    ∃ q, p.withoutSuffix? = some q := by
  rw [withoutSuffix?, if_neg named]
  exact ⟨_, rfl⟩

theorem name_mem {p : Path} (named : p.name ≠ "") : p.name ∈ p.parts := by
  rw [name] at named ⊢
  cases hl : p.parts.getLast? with
  | none =>
      rw [hl] at named
      exact absurd rfl named
  | some part => exact List.mem_of_getLast? hl

theorem mem_of_mem_cutSuffix {name : String} {c : Char} (h : c ∈ (cutSuffix name).1.toList) :
    c ∈ name.toList := by
  rw [cutSuffix] at h
  split at h
  · rw [String.toList_ofList, List.mem_reverse] at h
    exact List.mem_reverse.1 (List.mem_of_mem_drop h)
  · exact h

theorem cutSuffix_ne_empty {name : String} (h : name ≠ "") : (cutSuffix name).1 ≠ "" := by
  rw [cutSuffix]
  split
  · next cut =>
      obtain ⟨_, _, before⟩ := cut
      intro nothing
      have chars := congrArg String.toList nothing
      rw [String.toList_ofList] at chars
      exact before (List.reverse_eq_nil_iff.1 chars)
  · exact h

theorem plain_cutSuffix {name : String} (h : IsPlain name) : IsPlain (cutSuffix name).1 :=
  ⟨cutSuffix_ne_empty h.something, fun slash => h.whole (mem_of_mem_cutSuffix slash)⟩

theorem plain_withoutSuffix? {p q : Path} (plain : ∀ part ∈ p.parts, IsPlain part)
    (named : p.name ≠ "") (h : p.withoutSuffix? = some q) : ∀ part ∈ q.parts, IsPlain part := by
  intro part hp
  rcases mem_of_withoutSuffix? h hp with hp | rfl
  · exact plain part hp
  · exact plain_cutSuffix (plain _ (name_mem named))

/-! ## Texts of parts -/

theorem rootOf_eq_empty {cs : List Char} (h : cs.head? ≠ some '/') : rootOf cs = "" := by
  cases cs with
  | nil => rfl
  | cons c cs =>
      have other : c ≠ '/' := fun slash => h (by rw [slash]; rfl)
      simp [rootOf, other]

/-- Plain parts with slashes between them are read as the parts that say where to go. -/
theorem ofString_intercalate {parts : List String} (some_part : parts ≠ [])
    (plain : ∀ part ∈ parts, IsPlain part) :
    ofString (String.intercalate "/" parts) = ⟨"", parts.filter isPart⟩ := by
  have pieces : Text.split '/' (String.intercalate "/" parts).toList = parts.map String.toList :=
    Text.split_intercalate rfl some_part fun part hp => (plain part hp).whole
  have noRoot : rootOf (String.intercalate "/" parts).toList = "" := by
    refine rootOf_eq_empty fun slash => ?_
    -- A text that starts with a slash has an empty piece in front.
    cases hs : (String.intercalate "/" parts).toList with
    | nil => rw [hs] at slash; cases slash
    | cons c cs =>
        rw [hs] at slash pieces
        cases slash
        rw [Text.split, if_pos rfl] at pieces
        obtain ⟨part, hp, nothing⟩ := List.mem_map.1 (pieces ▸ List.mem_cons_self)
        exact (plain part hp).something (String.toList_eq_nil_iff.1 nothing)
  rw [ofString, noRoot, partsOf, pieces, List.map_map]
  simp

/-- A part that stays where it is can be put in front. -/
theorem ofString_here (s : String) : ofString ("./" ++ s) = ⟨"", (ofString s).parts⟩ := by
  have chars : ("./" ++ s).toList = '.' :: '/' :: s.toList := by simp
  have pieces : Text.split '/' ('.' :: '/' :: s.toList) = ['.'] :: Text.split '/' s.toList := by
    simp [Text.split]
  have dot : isPart (String.ofList ['.']) = false := by decide
  rw [ofString, ofString, chars, partsOf, pieces, List.map_cons,
    List.filter_cons_of_neg (by simp [dot])]
  rfl

/-! ## Places -/

/-- A place none of whose parts leads upwards or stays where it is. -/
def Settled (place : List String) : Prop := ∀ part ∈ place, part ≠ up ∧ part ≠ here

theorem settled_foldl_step {parts : List String} : ∀ {place : List String}, Settled place →
    Settled (parts.foldl step place) := by
  induction parts with
  | nil => exact fun h => h
  | cons part parts ih =>
      intro place h
      refine ih ?_
      rw [step]
      split
      · exact fun x hx => h x (List.mem_of_mem_tail hx)
      · next notUp =>
          split
          · exact h
          · next notHere => exact List.forall_mem_cons.2 ⟨⟨notUp, notHere⟩, h⟩

theorem settled_follow {place : List String} (h : Settled place) (parts : List String) :
    Settled (follow place parts) := by
  intro part hp
  rw [follow, List.mem_reverse] at hp
  exact settled_foldl_step (fun x hx => h x (List.mem_reverse.1 hx)) part hp

theorem settled_resolve (directory : List String) (p : Path) : Settled (resolve directory p) :=
  settled_follow (fun _ hp => absurd hp List.not_mem_nil) _

theorem mem_of_mem_foldl_step {place parts : List String} {part : String}
    (h : part ∈ parts.foldl step place) : part ∈ place ∨ part ∈ parts := by
  induction parts generalizing place with
  | nil => exact Or.inl h
  | cons first parts ih =>
      obtain h | h := ih h
      · rw [step] at h
        split at h
        · exact Or.inl (List.mem_of_mem_tail h)
        · split at h
          · exact Or.inl h
          · obtain rfl | h := List.mem_cons.1 h
            · exact Or.inr List.mem_cons_self
            · exact Or.inl h
      · exact Or.inr (List.mem_cons_of_mem first h)

/-- Following parts leads to nothing but places on the way. -/
theorem mem_of_mem_follow {place parts : List String} {part : String}
    (h : part ∈ follow place parts) : part ∈ place ∨ part ∈ parts := by
  rw [follow, List.mem_reverse] at h
  exact (mem_of_mem_foldl_step h).imp_left List.mem_reverse.1

theorem mem_of_mem_resolve {directory : List String} {p : Path} {part : String}
    (h : part ∈ resolve directory p) : part ∈ directory ∨ part ∈ p.parts := by
  rw [resolve] at h
  obtain h | h := mem_of_mem_follow h
  · cases h
  · split at h
    · exact List.mem_append.1 h
    · exact Or.inr h

/-! ## Following -/

theorem follow_append (place as bs : List String) :
    follow place (as ++ bs) = follow (follow place as) bs := by
  simp [follow]

/-- Parts that lead downwards are the parts of the place that they lead to. -/
theorem follow_of_settled {parts : List String} (h : Settled parts) (place : List String) :
    follow place parts = place ++ parts := by
  induction parts generalizing place with
  | nil => simp [follow]
  | cons part parts ih =>
      obtain ⟨notUp, notHere⟩ := h part List.mem_cons_self
      have first : follow place [part] = place ++ [part] := by
        simp [follow, step, notUp, notHere]
      have rest := ih (fun x hx => h x (List.mem_cons_of_mem part hx)) (place ++ [part])
      rw [← List.singleton_append, follow_append, first, rest, List.append_assoc]

/-- Going upwards once for each part of a place leads back to where it was entered. -/
theorem follow_ups (common leave : List String) :
    follow (common ++ leave) (leave.map fun _ => up) = common := by
  have ups : ∀ place : List String,
      (leave.map fun _ => up).foldl step place = place.drop leave.length := by
    induction leave with
    | nil => exact fun _ => rfl
    | cons part leave ih =>
        intro place
        rw [List.map_cons, List.foldl_cons, step, if_pos rfl, ih, List.length_cons,
          List.drop_tail]
  rw [follow, ups, List.reverse_append, ← List.length_reverse, List.drop_left, List.reverse_reverse]

/-- A path and another one that is followed from where it leads, unless that one has a root. -/
def join (p q : Path) : Path :=
  if q.root = "" then { p with parts := p.parts ++ q.parts } else q

theorem resolve_join {directory : List String} {p q : Path} (h : q.root = "") :
    resolve directory (p.join q) = follow (resolve directory p) q.parts := by
  rw [join, if_pos h, resolve, resolve, ← follow_append]
  dsimp only
  split
  · rw [List.append_assoc]
  · rfl

/-! ## The way from one place to another -/

/-- Two places are what they start with in common, and what is left of each. -/
theorem exists_common (start target : List String) :
    ∃ common, start = common ++ (dropCommon start target).1 ∧
      target = common ++ (dropCommon start target).2 := by
  induction start, target using dropCommon.induct with
  | case1 start part target ih =>
      obtain ⟨common, hs, ht⟩ := ih
      rw [dropCommon, if_pos rfl]
      exact ⟨part :: common, by rw [List.cons_append, ← hs], by rw [List.cons_append, ← ht]⟩
  | case2 part start other target apart =>
      rw [dropCommon, if_neg apart]
      exact ⟨[], rfl, rfl⟩
  | case3 start target short =>
      refine ⟨[], ?_⟩
      rw [dropCommon.eq_def]
      split
      · exact absurd rfl (short _ _ _ _ rfl)
      · exact ⟨rfl, rfl⟩

theorem mem_of_mem_dropCommon {start target : List String} {part : String}
    (h : part ∈ (dropCommon start target).2) : part ∈ target := by
  obtain ⟨common, _, ht⟩ := exists_common start target
  rw [ht]
  exact List.mem_append_right common h

/-- The way from one place to another leads there. -/
theorem follow_between {target : List String} (h : Settled target) (start : List String) :
    follow start (between start target) = target := by
  obtain ⟨common, hs, ht⟩ := exists_common start target
  rw [between, follow_append]
  generalize dropCommon start target = left at hs ht ⊢
  subst hs ht
  rw [follow_ups]
  exact follow_of_settled (fun part hp => h part (List.mem_append_right common hp)) common

/-- The way from one place to one that lies in it is what comes further. -/
theorem between_append (start rest : List String) : between start (start ++ rest) = rest := by
  have left : dropCommon start (start ++ rest) = ([], rest) := by
    induction start with
    | nil => rfl
    | cons part start ih => rw [List.cons_append, dropCommon, if_pos rfl, ih]
  rw [between, left]
  rfl

/-- A way starts upwards, or else the place it leads to lies in the one that it starts from. -/
theorem between_cases (start target : List String) :
    (∃ rest, between start target = up :: rest) ∨ target = start ++ between start target := by
  obtain ⟨common, hs, ht⟩ := exists_common start target
  rw [between]
  generalize dropCommon start target = left at hs ht ⊢
  obtain ⟨leave, enter⟩ := left
  cases leave with
  | nil =>
      refine Or.inr ?_
      rw [List.append_nil] at hs
      rw [hs]
      exact ht
  | cons part leave => exact Or.inl ⟨_, rfl⟩

theorem mem_between {start target : List String} {part : String} (h : part ∈ between start target) :
    part = up ∨ part ∈ target := by
  rcases List.mem_append.1 h with h | h
  · obtain ⟨_, _, rfl⟩ := List.mem_map.1 h
    exact Or.inl rfl
  · exact Or.inr (mem_of_mem_dropCommon h)

end Typewright.Path
