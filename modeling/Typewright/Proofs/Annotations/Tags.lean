import Mathlib.Data.List.Infix
import Mathlib.Data.List.TakeWhile
import Typewright.Annotations
import Typewright.Proofs.Outcome

/-!
# Types in tags

A tag is read up to the first closing brace that comes before a blank or before nothing. A type may
have braces of its own. If they are balanced, something of the type is read, and the brace after the
type ends the tag at the latest. So such a type is taken whole unless a blank comes after one of its
own closing braces (`tagged_whole_iff`). Then only what stands before such a brace is taken.
-/

namespace Typewright.Annotations

open Text (isBlank dropBlanks)

/-! ## Types with braces -/

/-- Every closing brace of a text belongs to an opening one before it, and the other way round. -/
structure Balanced (cs : List Char) : Prop where
  opened : ∀ p, p <+: cs → p.count '\x7d' ≤ p.count '\x7b'
  closed : cs.count '\x7d' = cs.count '\x7b'

instance (cs : List Char) : Decidable (Balanced cs) :=
  decidable_of_iff ((∀ p ∈ cs.inits, p.count '\x7d' ≤ p.count '\x7b') ∧
      cs.count '\x7d' = cs.count '\x7b')
    ⟨fun h => ⟨fun p hp => h.1 p ((List.mem_inits p cs).2 hp), h.2⟩,
      fun h => ⟨fun p hp => h.1 p ((List.mem_inits p cs).1 hp), h.2⟩⟩

/-- A type on one line without blanks at its ends, whose braces are balanced. -/
structure IsType (x : List Char) : Prop where
  something : x ≠ []
  oneLine : '\n' ∉ x
  first : ∀ c ∈ x.head?, isBlank c = false
  last : ∀ c ∈ x.getLast?, isBlank c = false
  balanced : Balanced x

instance (x : List Char) : Decidable (IsType x) :=
  decidable_of_iff (x ≠ [] ∧ '\n' ∉ x ∧ x.head?.all (!isBlank ·) = true ∧
      x.getLast?.all (!isBlank ·) = true ∧ Balanced x) (by
    simp only [Option.all_eq_true, Bool.not_eq_true']
    exact ⟨fun h => ⟨h.1, h.2.1, h.2.2.1, h.2.2.2.1, h.2.2.2.2⟩,
      fun h => ⟨h.1, h.2, h.3, h.4, h.5⟩⟩)

/-- A documentation with nothing but a tag. -/
def tagged (x : String) : String := "@type \x7b" ++ x ++ "\x7d"

/-- Whether a blank comes after a closing brace. -/
def ClosesBeforeBlank (x : List Char) : Prop := ∃ b, isBlank b = true ∧ ['\x7d', b] <:+: x

instance (x : List Char) : Decidable (ClosesBeforeBlank x) :=
  decidable_of_iff (x.any (fun b => isBlank b && decide (['\x7d', b] <:+: x)) = true) (by
    simp only [List.any_eq_true, Bool.and_eq_true, decide_eq_true_eq]
    exact ⟨fun ⟨b, _, h⟩ => ⟨b, h⟩, fun ⟨b, h⟩ => ⟨b, h.2.subset (by simp), h⟩⟩)

theorem Balanced.head_ne {cs : List Char} (h : Balanced cs) : ∀ c ∈ cs.head?, c ≠ '\x7d' := by
  rintro c hc rfl
  obtain ⟨rest, rfl⟩ := List.head?_eq_some_iff.1 hc
  have first := h.opened ['\x7d'] ⟨rest, rfl⟩
  exact absurd first (by decide)

/-! ## Where a tag ends -/

theorem endsTag_iff {cs : List Char} : endsTag cs = true ↔
    ∃ after, dropBlanks cs = '\x7d' :: after ∧ ∀ b ∈ after.head?, isBlank b = true := by
  rw [endsTag]
  split
  · next alone =>
      rw [alone]
      exact iff_of_true rfl ⟨[], rfl, by simp⟩
  · next b after start =>
      rw [start]
      simp
  · next alone more =>
      refine iff_of_false Bool.false_ne_true ?_
      rintro ⟨after, start, _⟩
      cases after with
      | nil => exact alone start
      | cons b after => exact more b after start

/-- A text that ends with something else than a blank does not consist of blanks. -/
theorem dropBlanks_ne_nil {cs : List Char} (something : cs ≠ [])
    (last : ∀ c ∈ cs.getLast?, isBlank c = false) : dropBlanks cs ≠ [] := by
  intro nothing
  have blank := List.dropWhile_eq_nil_iff.1 nothing (cs.getLast something) (List.getLast_mem _)
  have ink := last (cs.getLast something) (List.getLast?_eq_getLast_of_ne_nil something)
  rw [ink] at blank
  cases blank

/-- Before the brace of its own, a tag ends where a blank comes after a closing brace. -/
theorem exists_ends_iff {x : List Char} (last : ∀ c ∈ x.getLast?, isBlank c = false) :
    (∃ rest, rest ≠ [] ∧ rest <:+ x ∧ endsTag (rest ++ ['\x7d']) = true) ↔
      ClosesBeforeBlank x := by
  constructor
  · rintro ⟨rest, some_rest, ⟨before, rfl⟩, ends⟩
    rw [List.getLast?_append_of_ne_nil _ some_rest] at last
    have inside : dropBlanks rest <:+ before ++ rest :=
      (List.dropWhile_suffix isBlank).trans (List.suffix_append before rest)
    obtain ⟨after, start, blank⟩ := endsTag_iff.1 ends
    cases hd : dropBlanks rest with
    | nil => exact absurd hd (dropBlanks_ne_nil some_rest last)
    | cons c cs =>
        rw [dropBlanks, List.dropWhile_append, ← dropBlanks, hd] at start
        obtain ⟨rfl, rfl⟩ := List.cons.inj start
        rw [hd] at inside
        cases cs with
        | nil => exact absurd (blank '\x7d' rfl) (by decide)
        | cons b cs =>
            exact ⟨b, blank b rfl, (List.prefix_append ['\x7d', b] cs).isInfix.trans inside.isInfix⟩
  · rintro ⟨b, blank, before, after, rfl⟩
    refine ⟨'\x7d' :: b :: after, List.cons_ne_nil _ _, ⟨before, by simp⟩, endsTag_iff.2 ?_⟩
    refine ⟨b :: (after ++ ['\x7d']), List.dropWhile_cons_of_neg (by decide), ?_⟩
    rintro _ ⟨⟩
    exact blank

/-- What is read of a tag stands before every place where it ends. -/
theorem exists_tagBody? {before rest : List Char} (oneLine : '\n' ∉ before)
    (ends : endsTag rest = true) :
    ∃ body, tagBody? (before ++ rest) = some body ∧ body <+: before := by
  induction before with
  | nil =>
      cases rest with
      | nil => cases ends
      | cons c rest => exact ⟨[], by rw [List.nil_append, tagBody?, if_pos ends], List.nil_prefix⟩
  | cons c before ih =>
      rw [List.mem_cons, not_or] at oneLine
      rw [List.cons_append, tagBody?]
      split
      · exact ⟨[], rfl, List.nil_prefix⟩
      · obtain ⟨body, read, start⟩ := ih oneLine.2
        rw [if_neg (Ne.symm oneLine.1), read]
        exact ⟨c :: body, rfl, List.cons_prefix_cons.2 ⟨rfl, start⟩⟩

/-- A tag that ends nowhere in a text is read on to what comes after. -/
theorem tagBody?_append {before rest : List Char} (oneLine : '\n' ∉ before)
    (goesOn : ∀ inner, inner ≠ [] → inner <:+ before → endsTag (inner ++ rest) = false) :
    tagBody? (before ++ rest) = (tagBody? rest).map (before ++ ·) := by
  induction before with
  | nil => simp
  | cons c before ih =>
      rw [List.mem_cons, not_or] at oneLine
      have here := goesOn (c :: before) (List.cons_ne_nil c before) List.suffix_rfl
      have ih := ih oneLine.2 fun inner some_inner hi =>
        goesOn inner some_inner (hi.trans (List.suffix_cons c before))
      rw [List.cons_append] at here ⊢
      rw [tagBody?, if_neg (by simp [here]), if_neg (Ne.symm oneLine.1), ih, Option.map_map]
      rfl

/-- The body of a tag is the type exactly if no blank comes after a closing brace of the type. -/
theorem tagBody?_eq_iff {x : List Char} (oneLine : '\n' ∉ x)
    (last : ∀ c ∈ x.getLast?, isBlank c = false) :
    tagBody? (x ++ ['\x7d']) = some x ↔ ¬ ClosesBeforeBlank x := by
  rw [← exists_ends_iff last]
  constructor
  · rintro whole ⟨rest, some_rest, ⟨before, rfl⟩, ends⟩
    obtain ⟨body, read, short⟩ := exists_tagBody?
      (fun feed => oneLine (List.mem_append_left rest feed)) ends
    rw [List.append_assoc, read] at whole
    cases whole
    exact some_rest (List.append_right_eq_self.1 (short.eq_of_length_le (by simp)))
  · intro goesOn
    rw [tagBody?_append oneLine fun inner some_inner hi =>
      Bool.eq_false_iff.2 fun ends => goesOn ⟨inner, some_inner, hi, ends⟩]
    have closing : tagBody? ['\x7d'] = some [] := by decide
    rw [closing, Option.map_some, List.append_nil]

/-- Something is read of a type that starts with neither a blank nor a closing brace. -/
theorem ne_nil_of_tagBody? {a : Char} {rest body : List Char} (ink : isBlank a = false)
    (other : a ≠ '\x7d') (read : tagBody? (a :: rest) = some body) : body ≠ [] := by
  rintro rfl
  have goesOn : endsTag (a :: rest) ≠ true := by
    intro ends
    obtain ⟨after, start, _⟩ := endsTag_iff.1 ends
    rw [dropBlanks, List.dropWhile_cons_of_neg (by simp [ink])] at start
    exact other (List.cons.inj start).1
  rw [tagBody?, if_neg goesOn] at read
  split at read
  · cases read
  · obtain ⟨_, _, same⟩ := Option.map_eq_some_iff.1 read
    cases same

/-! ## Tags -/

section Tags

variable {c : Config} {doc body : List Char} {x : String}

theorem grouped_toList (x : String) : grouped x.toList = "(" ++ x ++ ")" := by
  rw [← String.toList_inj]
  simp [grouped]

theorem grouped_inj {body other : List Char} : grouped body = grouped other ↔ body = other := by
  rw [grouped, grouped, String.ofList_inj]
  simp

/-- A tag with a type in it decides. -/
theorem resolve_of_tag (h : tag? doc = some body) (something : body ≠ []) :
    resolve c doc = grouped body := by
  rw [resolve, h]
  cases body with
  | nil => exact absurd rfl something
  | cons a body => rfl

theorem tag?_tagged (first : ∀ c ∈ x.toList.head?, isBlank c = false)
    (h : tagBody? (x.toList ++ ['\x7d']) = some body) : tag? (tagged x).toList = some body := by
  have chars : (tagged x).toList =
      '@' :: 't' :: 'y' :: 'p' :: 'e' :: ' ' :: '\x7b' :: (x.toList ++ ['\x7d']) := by
    simp [tagged]
  have inner : dropBlanks (x.toList ++ ['\x7d']) = x.toList ++ ['\x7d'] := by
    cases hx : x.toList with
    | nil => rfl
    | cons a cs => exact List.dropWhile_cons_of_neg (by simp [first a (by rw [hx]; rfl)])
  have word : afterTagWord? (' ' :: '\x7b' :: (x.toList ++ ['\x7d'])) = some body := by
    have skipped : dropBlanks (' ' :: '\x7b' :: (x.toList ++ ['\x7d'])) =
        '\x7b' :: (x.toList ++ ['\x7d']) := by
      rw [dropBlanks, List.dropWhile_cons_of_pos (by decide),
        List.dropWhile_cons_of_neg (by decide)]
    rw [afterTagWord?, skipped]
    exact (congrArg tagBody? inner).trans h
  rw [chars, tag?]
  simp [tagWord, List.isPrefixOf?, word]

/-- A tag with a type in it is an annotation. The type is taken whole, in parentheses, if and only
if no blank comes after one of its closing braces. -/
theorem tagged_whole_iff (h : IsType x.toList) :
    present (.str (tagged x)) = .ok true ∧
      (resolve c (tagged x).toList = "(" ++ x ++ ")" ↔ ¬ ClosesBeforeBlank x.toList) := by
  obtain ⟨body, read, _⟩ := exists_tagBody? h.oneLine (by decide : endsTag ['\x7d'] = true)
  have tag := tag?_tagged h.first read
  have something : body ≠ [] := by
    cases hx : x.toList with
    | nil => exact absurd hx h.something
    | cons a cs =>
        have ha : a ∈ x.toList.head? := by rw [hx]; rfl
        rw [hx] at read
        exact ne_nil_of_tagBody? (h.first a ha) (h.balanced.head_ne a ha) read
  constructor
  · have truthy : (Value.str (tagged x)).truthy = true := by
      have some_text : tagged x ≠ "" := by simp [tagged]
      simpa [Value.truthy] using some_text
    rw [present, if_pos truthy]
    simp only [Value.scanned, ok_bind, isAnnotated, tag, Option.isSome_some, Bool.or_true]
    rfl
  · rw [resolve_of_tag tag something, ← grouped_toList, grouped_inj,
      ← tagBody?_eq_iff h.oneLine h.last, read, Option.some.injEq]

end Tags

/-- Braces inside of braces are taken whole. -/
theorem keyed_tagged_whole :
    IsType "Record<string, \x7bkeys: \x7bid: number\x7d[]\x7d>".toList ∧
      present (.str (tagged "Record<string, \x7bkeys: \x7bid: number\x7d[]\x7d>")) = .ok true ∧
      resolve Config.default (tagged "Record<string, \x7bkeys: \x7bid: number\x7d[]\x7d>").toList =
        "(Record<string, \x7bkeys: \x7bid: number\x7d[]\x7d>)" := by
  have type : IsType "Record<string, \x7bkeys: \x7bid: number\x7d[]\x7d>".toList := by
    decide +kernel
  obtain ⟨annotated, whole_iff⟩ := tagged_whole_iff (c := Config.default) type
  exact ⟨type, annotated, whole_iff.2 (by decide +kernel)⟩

/-- A union with a type in braces is cut after its first member. -/
theorem union_tagged_cut :
    IsType "\x7b id: number \x7d | null".toList ∧
      present (.str (tagged "\x7b id: number \x7d | null")) = .ok true ∧
      resolve Config.default (tagged "\x7b id: number \x7d | null").toList = "(\x7b id: number)" ∧
      "(\x7b id: number)" ≠ "(" ++ "\x7b id: number \x7d | null" ++ ")" :=
  ⟨by decide +kernel, rfl, by decide +kernel, by decide⟩

end Typewright.Annotations
