/-!
# Pieces of a text

A text is cut at every occurrence of one character and put together again. Lines are the pieces
between line feeds. Cutting and joining with the same character are inverse to each other
(`join_split`, `split_join`).
-/

namespace Typewright.Text

/-- The pieces between the occurrences of a character. There is always at least one. -/
def split (mark : Char) : List Char → List (List Char)
  | [] => [[]]
  | c :: rest =>
      if c = mark then [] :: split mark rest
      else match split mark rest with
        | [] => [[c]]
        | piece :: pieces => (c :: piece) :: pieces

/-- The pieces with a text between each two. -/
def join (between : List Char) : List (List Char) → List Char
  | [] => []
  | [piece] => piece
  | piece :: pieces => piece ++ between ++ join between pieces

/-- The lines of a text. -/
def lines (cs : List Char) : List (List Char) := split '\n' cs

/-- Lines put together. -/
def unlines (ls : List (List Char)) : List Char := join ['\n'] ls

/-- A text with every line changed on its own. -/
def mapLines (f : List Char → List Char) (s : String) : String :=
  String.ofList (unlines ((lines s.toList).map f))

/-! ## Cutting and joining -/

theorem split_ne_nil (a : Char) (cs : List Char) : split a cs ≠ [] := by
  cases cs with
  | nil => simp [split]
  | cons c rest =>
    unfold split
    split
    · simp
    · split <;> simp

/-- Joining the pieces gives the text back. -/
theorem join_split (a : Char) (cs : List Char) : join [a] (split a cs) = cs := by
  induction cs with
  | nil => rfl
  | cons c rest ih =>
    unfold split
    by_cases h : c = a
    · subst h
      simp only [if_true]
      cases hs : split c rest with
      | nil => exact absurd hs (split_ne_nil c rest)
      | cons p ps => rw [hs] at ih; simp [join, ih]
    · simp only [if_neg h]
      cases hs : split a rest with
      | nil => exact absurd hs (split_ne_nil a rest)
      | cons p ps =>
        rw [hs] at ih
        cases ps with
        | nil => simp [join] at ih ⊢; exact ih
        | cons q qs => simp [join] at ih ⊢; exact ih

/-- Cutting a joined text gives the pieces back, if none holds the character. -/
theorem split_join (a : Char) (ps : List (List Char)) (hne : ps ≠ [])
    (h : ∀ p ∈ ps, a ∉ p) : split a (join [a] ps) = ps := by
  have piece : ∀ (p rest : List Char), a ∉ p →
      split a (p ++ a :: rest) = p :: split a rest := by
    intro p rest hp
    induction p with
    | nil => simp [split]
    | cons c p ih =>
      have hc : c ≠ a := fun e => hp (by simp [e])
      have := ih (fun m => hp (by simp [m]))
      simp [split, hc, this]
  have last : ∀ p : List Char, a ∉ p → split a p = [p] := by
    intro p hp
    induction p with
    | nil => rfl
    | cons c p ih =>
      have hc : c ≠ a := fun e => hp (by simp [e])
      have := ih (fun m => hp (by simp [m]))
      simp [split, hc, this]
  induction ps with
  | nil => exact absurd rfl hne
  | cons p ps ih =>
    cases ps with
    | nil => exact last p (h p (by simp))
    | cons q qs =>
      have hp := h p (by simp)
      have := ih (by simp) (fun r hr => h r (by simp [hr]))
      simp only [join, List.append_assoc, List.singleton_append]
      rw [piece p _ hp, this]

theorem join_eq_intercalate (between : List Char) (ps : List (List Char)) :
    join between ps = between.intercalate ps := by
  induction ps with
  | nil => rfl
  | cons p ps ih =>
    cases ps with
    | nil => simp [join]
    | cons q qs => rw [join, ih, List.intercalate_cons_cons]; simp

/-- Cutting texts with the character between each two gives the texts back, if none holds it. -/
theorem split_intercalate {mark : Char} {between : String} (hb : between.toList = [mark])
    {ls : List String} (hne : ls ≠ []) (h : ∀ l ∈ ls, mark ∉ l.toList) :
    split mark (String.intercalate between ls).toList = ls.map String.toList := by
  rw [String.toList_intercalate, hb, ← join_eq_intercalate]
  refine split_join mark _ (by simpa using hne) fun p hp => ?_
  obtain ⟨l, hl, rfl⟩ := List.mem_map.1 hp
  exact h l hl

/-- The lines of texts of one line each with line feeds between them are these texts. -/
theorem lines_intercalate {ls : List String} (hne : ls ≠ []) (h : ∀ l ∈ ls, '\n' ∉ l.toList) :
    lines (String.intercalate "\n" ls).toList = ls.map String.toList :=
  split_intercalate rfl hne h

theorem unlines_cons {l : List Char} {ls : List (List Char)} (more : ls ≠ []) :
    unlines (l :: ls) = l ++ '\n' :: unlines ls := by
  cases ls with
  | nil => exact absurd rfl more
  | cons k ls => simp [unlines, join]

theorem unlines_concat {l : List Char} {ls : List (List Char)} (more : ls ≠ []) :
    unlines (ls ++ [l]) = unlines ls ++ '\n' :: l := by
  induction ls with
  | nil => exact absurd rfl more
  | cons k ls ih =>
      by_cases last : ls = []
      · simp [last, unlines, join]
      · rw [List.cons_append, unlines_cons (by simp), ih last, unlines_cons last]
        simp

/-- Texts with another between each two are the first, and the others each behind it. -/
theorem intercalate_cons_eq_join (between s : String) (ls : List String) :
    String.intercalate between (s :: ls) = s ++ String.join (ls.map (between ++ ·)) := by
  induction ls generalizing s with
  | nil => simp
  | cons t ls ih =>
      rw [String.intercalate_cons_cons, ih, List.map_cons, String.join_cons]
      simp only [String.append_assoc]

/-- No piece holds the character at which the text was cut. -/
theorem not_mem_of_mem_split (a : Char) (cs : List Char) :
    ∀ p ∈ split a cs, a ∉ p := by
  induction cs with
  | nil => simp [split]
  | cons c rest ih =>
    intro p hp
    unfold split at hp
    by_cases h : c = a
    · simp only [if_pos h, List.mem_cons] at hp
      cases hp with
      | inl e => simp [e]
      | inr m => exact ih p m
    · simp only [if_neg h] at hp
      cases hs : split a rest with
      | nil => exact absurd hs (split_ne_nil a rest)
      | cons q qs =>
        rw [hs] at hp ih
        simp only [List.mem_cons] at hp
        cases hp with
        | inl e =>
          have := ih q (by simp)
          subst e
          simp only [List.mem_cons, not_or]
          exact ⟨fun e => h e.symm, this⟩
        | inr m => exact ih p (by simp [m])

/-- The first piece is what stands before the first occurrence of the character. -/
theorem head?_split (a : Char) (cs : List Char) :
    (split a cs).head? = some (cs.takeWhile (· != a)) := by
  induction cs with
  | nil => rfl
  | cons c rest ih =>
    rw [split]
    by_cases h : c = a
    · simp [h]
    · cases hs : split a rest with
      | nil => exact absurd hs (split_ne_nil a rest)
      | cons p ps =>
        rw [hs] at ih
        simpa [h] using ih

/-- A piece stands in front if there is nothing more or the character comes next. -/
theorem head?_split_eq_some_iff {a : Char} {cs piece : List Char} (whole : a ∉ piece) :
    (split a cs).head? = some piece ↔ cs = piece ∨ piece ++ [a] <+: cs := by
  have free : ∀ c ∈ piece, (c != a) = true := by
    intro c hc
    simpa using fun e : c = a => whole (e ▸ hc)
  rw [head?_split, Option.some.injEq]
  constructor
  · intro taken
    have parts := List.takeWhile_append_dropWhile (p := (· != a)) (l := cs)
    rw [taken] at parts
    cases hd : cs.dropWhile (· != a) with
    | nil =>
      rw [hd, List.append_nil] at parts
      exact Or.inl parts.symm
    | cons c rest =>
      have stop : c = a := by
        have head := List.head?_dropWhile_not (· != a) cs
        rw [hd] at head
        simpa using head
      rw [hd, stop] at parts
      exact Or.inr ⟨rest, by rw [← parts, List.append_assoc, List.singleton_append]⟩
  · rintro (rfl | ⟨rest, rfl⟩)
    · have all : (cs ++ []).takeWhile (· != a) = cs ++ [] := List.takeWhile_append_of_pos free
      rwa [List.append_nil] at all
    · rw [List.append_assoc, List.takeWhile_append_of_pos free]
      simp

theorem infix_join {between piece : List Char} {ps : List (List Char)} (h : piece ∈ ps) :
    piece <:+: join between ps := by
  induction ps with
  | nil => cases h
  | cons p ps ih =>
      cases ps with
      | nil =>
          rw [List.mem_singleton.1 h]
          exact List.infix_refl p
      | cons q ps =>
          rw [join]
          · rcases List.mem_cons.1 h with rfl | h
            · exact ⟨[], between ++ join between (q :: ps), by simp⟩
            · exact (ih h).trans (List.suffix_append _ _).isInfix
          · exact List.cons_ne_nil q ps

/-- What a joined text holds is between the pieces or in one of them. -/
theorem mem_join {between : List Char} {ps : List (List Char)} {c : Char}
    (h : c ∈ join between ps) : c ∈ between ∨ ∃ p ∈ ps, c ∈ p := by
  induction ps with
  | nil => cases h
  | cons p ps ih =>
      cases ps with
      | nil => exact Or.inr ⟨p, List.mem_cons_self, h⟩
      | cons q ps =>
          rw [join, List.mem_append, List.mem_append] at h
          · obtain (h | h) | h := h
            · exact Or.inr ⟨p, List.mem_cons_self, h⟩
            · exact Or.inl h
            · exact (ih h).imp_right fun ⟨r, hr, hc⟩ => ⟨r, List.mem_cons_of_mem p hr, hc⟩
          · exact List.cons_ne_nil q ps

theorem map_join (f : Char → Char) (between : List Char) (ps : List (List Char)) :
    (join between ps).map f = join (between.map f) (ps.map (List.map f)) := by
  induction ps with
  | nil => rfl
  | cons p ps ih =>
      cases ps with
      | nil => rfl
      | cons q ps =>
          simp only [List.map_cons, join, List.map_append] at ih ⊢
          rw [ih]

/-- A character before a joined text is one before the first piece. -/
theorem join_cons_head (between : List Char) (c : Char) (p : List Char)
    (ps : List (List Char)) : join between ((c :: p) :: ps) = c :: join between (p :: ps) := by
  cases ps <;> rfl

/-- A piece stands in the text. -/
theorem infix_of_mem_split {mark : Char} {cs piece : List Char} (h : piece ∈ split mark cs) :
    piece <:+: cs := by
  have inside : piece <:+: join [mark] (split mark cs) := infix_join h
  rwa [join_split] at inside

/-- The pieces of a text hold nothing but characters of the text. -/
theorem mem_of_mem_split {mark : Char} {cs piece : List Char} (h : piece ∈ split mark cs) :
    ∀ c ∈ piece, c ∈ cs :=
  fun _ hc => (infix_of_mem_split h).subset hc

end Typewright.Text
