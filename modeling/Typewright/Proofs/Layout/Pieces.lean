import Typewright.Proofs.Layout.Reading

/-!
# Pieces of tidy code

Two kinds of pieces are all that generated code needs. A piece that *stands* (`Stands`) may come
anywhere, since it starts with a character and ends with something that is no blank. A piece that
*follows* (`Follows`) comes after something that is no blank, and may start with line feeds of its
own. Most pieces that stand are lines (`IsLine`), and whether a text is a line depends on how it ends
(`IsLine.append`).

Lines of code (`Lined`) stand together if they do one by one, and empty lines may be among them where
no two meet.
-/

namespace Typewright.Layout

open Text (isBlank)
open Spot (gap fresh blank ink)

/-! ## Lines -/

/-- A text without line feeds. -/
def OneLine (s : String) : Prop := '\n' ∉ s.toList

instance (s : String) : Decidable (OneLine s) := inferInstanceAs (Decidable (_ ∉ _))

@[simp] theorem oneLine_append {s t : String} : OneLine (s ++ t) ↔ OneLine s ∧ OneLine t := by
  rw [OneLine, String.toList_append, List.mem_append, not_or]
  rfl

theorem OneLine.append {s t : String} (hs : OneLine s) (ht : OneLine t) : OneLine (s ++ t) :=
  oneLine_append.2 ⟨hs, ht⟩

/-- Texts that are written out are taken as characters. -/
theorem oneLine_ofList {l : List Char} (h : '\n' ∉ l) : OneLine (String.ofList l) := by
  rwa [OneLine, String.toList_ofList]

theorem oneLine_intercalate {between : String} {ls : List String} (hb : OneLine between)
    (h : ∀ s ∈ ls, OneLine s) : OneLine (String.intercalate between ls) := by
  induction ls with
  | nil => exact List.not_mem_nil
  | cons s ls ih =>
      have hs := h s List.mem_cons_self
      cases ls with
      | nil => rwa [String.intercalate_singleton]
      | cons t ls =>
          rw [String.intercalate_cons_cons, oneLine_append, oneLine_append]
          exact ⟨⟨hs, hb⟩, ih fun x hx => h x (List.mem_cons_of_mem s hx)⟩

theorem OneLine.exists_leads {s : String} (h : OneLine s) (p : Spot) : ∃ q, Leads p s q :=
  Spot.exists_read h p

/-! ## Pieces -/

/-- A piece that may come anywhere and ends with something that is no blank. Nothing that starts
with a line feed is read after an empty line, so that the first character of a piece is none. -/
def Stands (s : String) : Prop := Leads gap s ink

instance (s : String) : Decidable (Stands s) := inferInstanceAs (Decidable (Leads _ _ _))

/-- A piece that may come after something that is no blank, and ends so again. -/
def Follows (s : String) : Prop := Leads ink s ink

instance (s : String) : Decidable (Follows s) := inferInstanceAs (Decidable (Leads _ _ _))

/-- A piece that stands on one line. -/
structure IsLine (s : String) : Prop where
  oneLine : OneLine s
  stands : Stands s

instance (s : String) : Decidable (IsLine s) :=
  decidable_of_iff (OneLine s ∧ Stands s) ⟨fun h => ⟨h.1, h.2⟩, fun h => ⟨h.1, h.2⟩⟩

section Pieces

variable {s t : String} {ls ks : List String}

theorem Stands.leads (h : Stands s) (p : Spot) : Leads p s ink := by
  rw [Stands, Leads] at h
  rw [Leads]
  cases hs : s.toList with
  | nil =>
      rw [hs] at h
      cases h
  | cons c cs =>
      rw [hs, Spot.read, Spot.next] at h
      rw [Spot.read, Spot.next]
      by_cases hc : c = '\n'
      · rw [if_pos hc] at h
        cases h
      · rw [if_neg hc] at h ⊢
        exact h

theorem Stands.append (hs : Stands s) (ht : Follows t) : Stands (s ++ t) := Leads.append hs ht

theorem Follows.append (hs : Follows s) (ht : Follows t) : Follows (s ++ t) := Leads.append hs ht

theorem follows_empty : Follows "" := rfl

/-- A piece on the next line. -/
theorem Stands.next (h : Stands s) : Follows ("\n" ++ s) :=
  Leads.append (q := fresh) rfl (h.leads fresh)

/-- A piece after an empty line. -/
theorem Stands.apart (h : Stands s) : Follows ("\n\n" ++ s) :=
  Leads.append (q := gap) rfl (h.leads gap)

/-- A line behind a margin, on the next line. -/
theorem IsLine.margin (h : IsLine s) : Follows ("\n  " ++ s) :=
  Leads.append (q := blank) rfl (h.stands.leads blank)

/-- Whatever stands on a line before the end of the line, the end counts. -/
theorem IsLine.append (hs : OneLine s) (ht : IsLine t) : IsLine (s ++ t) := by
  obtain ⟨q, hq⟩ := hs.exists_leads gap
  exact ⟨oneLine_append.2 ⟨hs, ht.oneLine⟩, Leads.append hq (ht.stands.leads q)⟩

theorem isLine_ofList {l : List Char} (one : '\n' ∉ l) (h : gap.read l = some ink) :
    IsLine (String.ofList l) := by
  refine ⟨oneLine_ofList one, ?_⟩
  rwa [Stands, Leads, String.toList_ofList]

theorem isLine_of_concat {l : List Char} {c : Char} (one : '\n' ∉ l ++ [c])
    (ink : isBlank c = false) : IsLine (String.ofList (l ++ [c])) := by
  refine ⟨by rwa [OneLine, String.toList_ofList], ?_⟩
  rw [Stands, Leads, String.toList_ofList, Spot.read_concat gap one, ink]
  rfl

theorem follows_join (h : ∀ s ∈ ls, Follows s) : Follows (String.join ls) := by
  induction ls with
  | nil => rw [String.join_nil]; exact follows_empty
  | cons s ls ih =>
      rw [String.join_cons]
      exact (h s List.mem_cons_self).append (ih fun x hx => h x (List.mem_cons_of_mem s hx))

theorem follows_intercalate {between : String} (hb : Follows between) (h : ∀ s ∈ ls, Follows s) :
    Follows (String.intercalate between ls) := by
  induction ls with
  | nil => rw [String.intercalate_nil]; exact follows_empty
  | cons s ls ih =>
      have hs := h s List.mem_cons_self
      cases ls with
      | nil => rwa [String.intercalate_singleton]
      | cons t ls =>
          rw [String.intercalate_cons_cons]
          exact (hs.append hb).append (ih fun x hx => h x (List.mem_cons_of_mem s hx))

/-- Pieces that stand do so together, with line feeds between them that keep them apart. -/
theorem stands_intercalate {between : String} (hb : ∀ {t}, Stands t → Follows (between ++ t))
    (some_piece : ls ≠ []) (h : ∀ s ∈ ls, Stands s) : Stands (String.intercalate between ls) := by
  induction ls with
  | nil => exact absurd rfl some_piece
  | cons s ls ih =>
      have hs := h s List.mem_cons_self
      cases ls with
      | nil => rwa [String.intercalate_singleton]
      | cons t ls =>
          rw [String.intercalate_cons_cons, String.append_assoc]
          exact hs.append (hb (ih (by simp) fun x hx => h x (List.mem_cons_of_mem s hx)))

end Pieces

/-! ## Lines of code -/

/-- Lines that are a piece that stands. Empty lines may be among them, one at a time. -/
def Lined (ls : List String) : Prop := Stands (String.intercalate "\n" ls)

instance (ls : List String) : Decidable (Lined ls) := inferInstanceAs (Decidable (Stands _))

section Lined

variable {s : String} {ks ls : List String}

theorem Lined.ne_nil (h : Lined ls) : ls ≠ [] := by
  rintro rfl
  cases h

theorem lined_singleton (h : Stands s) : Lined [s] := by
  rwa [Lined, String.intercalate_singleton]

theorem Lined.append (hk : Lined ks) (hl : Lined ls) : Lined (ks ++ ls) := by
  rw [Lined, String.intercalate_append_of_ne_nil hk.ne_nil hl.ne_nil, String.append_assoc]
  exact Stands.append hk (Stands.next hl)

theorem Lined.cons (hs : Stands s) (hl : Lined ls) : Lined (s :: ls) :=
  (lined_singleton hs).append hl

/-- Lines with an empty line between them and those before. -/
theorem Lined.apart (hk : Lined ks) (hl : Lined ls) : Lined (ks ++ "" :: ls) := by
  have behind : String.intercalate "\n" ("" :: ls) = "\n" ++ String.intercalate "\n" ls := by
    rw [String.intercalate_cons_of_ne_nil hl.ne_nil, String.empty_append]
  rw [Lined, String.intercalate_append_of_ne_nil hk.ne_nil (List.cons_ne_nil "" ls), behind,
    String.append_assoc]
  exact Stands.append hk
    (Leads.append (q := fresh) rfl (Leads.append (q := gap) rfl (Stands.leads hl gap)))

theorem Lined.gap (hs : Stands s) (hl : Lined ls) : Lined (s :: "" :: ls) :=
  (lined_singleton hs).apart hl

theorem lined_of_forall (some_line : ls ≠ []) (h : ∀ s ∈ ls, Stands s) : Lined ls :=
  stands_intercalate Stands.next some_line h

/-- Pieces with an empty line before each. -/
theorem Lined.flatMap {α : Type} {as : List α} {f : α → String} (hl : Lined ls)
    (h : ∀ a ∈ as, Stands (f a)) : Lined (ls ++ as.flatMap fun a => ["", f a]) := by
  induction as generalizing ls with
  | nil => rwa [List.flatMap_nil, List.append_nil]
  | cons a as ih =>
      have first : Lined (ls ++ ["", f a]) :=
        hl.apart (lined_singleton (h a List.mem_cons_self))
      rw [List.flatMap_cons, ← List.append_assoc]
      exact ih first fun x hx => h x (List.mem_cons_of_mem a hx)

end Lined

end Typewright.Layout
