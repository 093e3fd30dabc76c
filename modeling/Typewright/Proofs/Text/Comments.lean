import Mathlib.Data.List.Infix
import Typewright.Proofs.Text.Identifiers

/-!
# Comments in a text

A comment in code starts with a slash and a star, and ends at the first star after them that has a
slash behind it. `readPieces` takes a text apart into comments and the characters outside of them.

What a piece of text is read as, whatever comes after it, is said by `ReadsAs`. Its comments come
before those of what follows (`ReadsAs.comments_append`), and so does what is outside of comments.
Code in which no comment starts (`IsCode`) is read as its characters.
What is meant as a comment is read as one if nothing in it ends it (`readsAs_comment`), and as a
shorter one otherwise (`exists_shorter_comment`).

The marks of comments are two characters next to each other. `pair_infix_append` says where there is
such a pair in a text of two pieces.
-/

namespace Typewright.Text

/-! ## Two characters next to each other -/

section Pairs

variable {a b c : Char} {l k : List Char}

theorem pair_infix_cons :
    [a, b] <:+: c :: l ↔ (c = a ∧ l.head? = some b) ∨ [a, b] <:+: l := by
  rw [List.infix_cons_iff, List.cons_prefix_cons]
  refine or_congr_left (and_congr eq_comm ?_)
  cases l with
  | nil => simp
  | cons d l => simp [List.cons_prefix_cons, eq_comm]

/-- A pair in a text of two pieces is in one of them, or the first ends with its first character and
the second starts with its second one. -/
theorem pair_infix_append :
    [a, b] <:+: l ++ k ↔
      [a, b] <:+: l ∨ [a, b] <:+: k ∨ l.getLast? = some a ∧ k.head? = some b := by
  induction l with
  | nil => simp
  | cons c l ih =>
      rw [List.cons_append, pair_infix_cons, pair_infix_cons, ih]
      cases l with
      | nil => simp [or_comm]
      | cons d l =>
          rw [List.getLast?_cons_cons, List.cons_append, List.head?_cons, List.head?_cons, or_assoc]

/-- No pair lies across a character that is none of it. -/
theorem pair_infix_append_cons (ha : c ≠ a) (hb : c ≠ b) :
    [a, b] <:+: l ++ c :: k ↔ [a, b] <:+: l ∨ [a, b] <:+: k := by
  simp [pair_infix_append, pair_infix_cons, ha, hb]

/-- A pair has a first place in a text. -/
theorem exists_first_pair (h : [a, b] <:+: l) :
    ∃ before after, l = before ++ a :: b :: after ∧ ¬ [a, b] <:+: before := by
  induction l with
  | nil => simp at h
  | cons c l ih =>
      by_cases here : c = a ∧ l.head? = some b
      · obtain ⟨rfl, head⟩ := here
        obtain ⟨after, rfl⟩ := List.head?_eq_some_iff.1 head
        exact ⟨[], after, rfl, by simp⟩
      · obtain ⟨before, after, rfl, first⟩ := ih ((pair_infix_cons.1 h).resolve_left here)
        refine ⟨c :: before, after, rfl, fun inside => ?_⟩
        obtain ⟨hc, head⟩ := (pair_infix_cons.1 inside).resolve_right first
        exact here ⟨hc, by simp [head]⟩

/-- A pair in a text is in one of its lines, if no line feed is part of it. -/
theorem pair_infix_unlines (ha : '\n' ≠ a) (hb : '\n' ≠ b) {ls : List (List Char)} :
    [a, b] <:+: unlines ls ↔ ∃ l ∈ ls, [a, b] <:+: l := by
  induction ls with
  | nil => simp [unlines, join]
  | cons l ls ih =>
      by_cases last : ls = []
      · simp [last, unlines, join]
      · rw [unlines_cons last, pair_infix_append_cons ha hb, ih]
        simp

/-- Blanks at the end of a text are in no pair of other characters. -/
theorem pair_infix_dropBlanksEnd (ha : isBlank a = false) (hb : isBlank b = false) :
    [a, b] <:+: dropBlanksEnd l ↔ [a, b] <:+: l := by
  obtain ⟨blanks, hblanks, whole⟩ := exists_dropBlanksEnd_append l
  rw [allBlank, List.all_eq_true] at hblanks
  have notMem {x : Char} (hx : isBlank x = false) : x ∉ blanks := by
    intro mem
    rw [hblanks x mem] at hx
    cases hx
  conv_rhs => rw [← whole, pair_infix_append]
  refine (or_iff_left ?_).symm
  rintro (inside | ⟨_, head⟩)
  · exact notMem ha (inside.subset List.mem_cons_self)
  · exact notMem hb (List.mem_of_mem_head? head)

end Pairs

/-! ## Reading comments -/

/-- A piece of a text. -/
inductive Piece where
  /-- A character outside of comments. -/
  | code (c : Char)
  /-- A comment, with its marks. -/
  | comment (text : List Char)
  deriving DecidableEq

/-- The character of a piece that is code. -/
def Piece.code? : Piece → Option Char
  | code c => some c
  | comment _ => none

/-- The text of a piece that is a comment. -/
def Piece.comment? : Piece → Option String
  | code _ => none
  | comment text => some (String.ofList text)

/-- Where a reader of comments stands. -/
inductive CommentSpot where
  | outside
  /-- Before the second character of the mark that starts a comment. -/
  | opening
  /-- Inside of a comment, of which this was read. -/
  | inside (read : List Char)
  /-- Before the second character of the mark that ends a comment. -/
  | closing (read : List Char)

/-- The pieces that are read from a spot on. A comment that does not end goes on to the end of the
text. -/
def readPieces : CommentSpot → List Char → List Piece
  | .outside, [] => []
  | .outside, c :: rest =>
      if c = '/' ∧ rest.head? = some '*' then readPieces .opening rest
      else .code c :: readPieces .outside rest
  | .opening, [] => []
  | .opening, _ :: rest => readPieces (.inside ['/', '*']) rest
  | .inside read, [] => [.comment read]
  | .inside read, c :: rest =>
      if c = '*' ∧ rest.head? = some '/' then readPieces (.closing read) rest
      else readPieces (.inside (read ++ [c])) rest
  | .closing _, [] => []
  | .closing read, _ :: rest => .comment (read ++ ['*', '/']) :: readPieces .outside rest

/-- The comments of a text, with their marks. -/
def comments (s : String) : List String :=
  (readPieces .outside s.toList).filterMap Piece.comment?

/-- A text without its comments. -/
def uncommented (s : String) : String :=
  String.ofList ((readPieces .outside s.toList).filterMap Piece.code?)

/-! ## What pieces of text are read as -/

/-- A text is read as certain pieces, whatever comes after it. -/
def ReadsAs (s : String) (ps : List Piece) : Prop :=
  ∀ rest, readPieces .outside (s.toList ++ rest) = ps ++ readPieces .outside rest

section Reading

variable {s t : String} {ps : List Piece}

theorem ReadsAs.comments_append (h : ReadsAs s ps) :
    comments (s ++ t) = ps.filterMap Piece.comment? ++ comments t := by
  rw [comments, String.toList_append, h, List.filterMap_append]
  rfl

theorem ReadsAs.uncommented_append (h : ReadsAs s ps) :
    uncommented (s ++ t) = String.ofList (ps.filterMap Piece.code?) ++ uncommented t := by
  rw [uncommented, String.toList_append, h, List.filterMap_append, String.ofList_append]
  rfl

/-- Code in which no comment starts, whatever comes after it. -/
structure IsCode (s : String) : Prop where
  free : ¬ ['/', '*'] <:+: s.toList
  last : s.toList.getLast? ≠ some '/'

instance (s : String) : Decidable (IsCode s) :=
  decidable_of_iff (¬ ['/', '*'] <:+: s.toList ∧ s.toList.getLast? ≠ some '/')
    ⟨fun h => ⟨h.1, h.2⟩, fun h => ⟨h.1, h.2⟩⟩

theorem IsCode.append (hs : IsCode s) (ht : IsCode t) : IsCode (s ++ t) := by
  constructor
  · rw [String.toList_append, pair_infix_append]
    rintro (inside | inside | ⟨last, _⟩)
    · exact hs.free inside
    · exact ht.free inside
    · exact hs.last last
  · rw [String.toList_append, List.getLast?_append]
    cases h : t.toList.getLast? with
    | none => exact hs.last
    | some c =>
        have last := ht.last
        rwa [h] at last

/-- A text may end with a slash if something is behind it that does not make it a comment. -/
theorem isCode_append (free : ¬ ['/', '*'] <:+: s.toList) (ht : IsCode t) (something : t ≠ "")
    (head : t.toList.head? ≠ some '*') : IsCode (s ++ t) := by
  constructor
  · rw [String.toList_append, pair_infix_append]
    rintro (inside | inside | ⟨_, start⟩)
    · exact free inside
    · exact ht.free inside
    · exact head start
  · rw [String.toList_append, List.getLast?_append]
    cases h : t.toList.getLast? with
    | none => exact absurd (String.toList_eq_nil_iff.1 (List.getLast?_eq_none_iff.1 h)) something
    | some c =>
        have last := ht.last
        rwa [h] at last

theorem IsCode.readsAs (h : IsCode s) : ReadsAs s (s.toList.map .code) := by
  obtain ⟨free, last⟩ := h
  intro rest
  generalize s.toList = l at free last
  induction l with
  | nil => rfl
  | cons c l ih =>
      rw [pair_infix_cons, not_or] at free
      -- What comes after the last character does not matter, since that is no slash.
      have head : ¬ (c = '/' ∧ (l ++ rest).head? = some '*') := by
        cases l with
        | nil =>
            rintro ⟨rfl, _⟩
            exact last rfl
        | cons d l => exact free.1
      have last : l.getLast? ≠ some '/' := by
        cases l with
        | nil => simp
        | cons d l => simpa using last
      rw [List.cons_append, readPieces, if_neg head, ih free.2 last]
      rfl

theorem IsCode.comments_append (h : IsCode s) : comments (s ++ t) = comments t := by
  rw [h.readsAs.comments_append, List.filterMap_map]
  simp [Function.comp_def, Piece.comment?]

theorem IsCode.comments_eq_nil (h : IsCode s) : comments s = [] := by
  have whole := h.comments_append (t := "")
  rwa [String.append_empty] at whole

theorem IsCode.uncommented_append (h : IsCode s) :
    uncommented (s ++ t) = s ++ uncommented t := by
  rw [h.readsAs.uncommented_append, List.filterMap_map]
  simp [Function.comp_def, Piece.code?]

theorem IsCode.uncommented_eq (h : IsCode s) : uncommented s = s := by
  have whole := h.uncommented_append (t := "")
  rw [String.append_empty] at whole
  exact whole.trans String.append_empty

/-! ## Comments -/

/-- The characters of a comment with a given body. -/
def commentChars (body : List Char) : List Char := '/' :: '*' :: (body ++ ['*', '/'])

/-- A comment ends at the first mark for its end. -/
theorem readPieces_inside {body : List Char} (free : ¬ ['*', '/'] <:+: body) (rest : List Char) :
    ∀ read : List Char, readPieces (.inside read) (body ++ '*' :: '/' :: rest) =
      .comment (read ++ body ++ ['*', '/']) :: readPieces .outside rest := by
  induction body with
  | nil =>
      intro read
      rw [List.nil_append, readPieces, if_pos ⟨rfl, rfl⟩, readPieces, List.append_nil]
  | cons c body ih =>
      intro read
      rw [pair_infix_cons, not_or] at free
      have head : ¬ (c = '*' ∧ (body ++ '*' :: '/' :: rest).head? = some '/') := by
        cases body with
        | nil => simp
        | cons d body => exact free.1
      rw [List.cons_append, readPieces, if_neg head, ih free.2]
      simp

theorem readPieces_comment {body : List Char} (free : ¬ ['*', '/'] <:+: body) (rest : List Char) :
    readPieces .outside ('/' :: '*' :: (body ++ '*' :: '/' :: rest)) =
      .comment (commentChars body) :: readPieces .outside rest := by
  rw [readPieces, if_pos ⟨rfl, rfl⟩, readPieces, readPieces_inside free]
  rfl

theorem readsAs_comment {body : List Char} (free : ¬ ['*', '/'] <:+: body) :
    ReadsAs (String.ofList (commentChars body)) [.comment (commentChars body)] := by
  intro rest
  have whole : commentChars body ++ rest = '/' :: '*' :: (body ++ '*' :: '/' :: rest) := by
    simp [commentChars]
  rw [String.toList_ofList, whole, readPieces_comment free]
  rfl

theorem comments_comment_append {body : List Char} (free : ¬ ['*', '/'] <:+: body) :
    comments (String.ofList (commentChars body) ++ t) =
      String.ofList (commentChars body) :: comments t :=
  (readsAs_comment free).comments_append

theorem uncommented_comment_append {body : List Char} (free : ¬ ['*', '/'] <:+: body) :
    uncommented (String.ofList (commentChars body) ++ t) = uncommented t := by
  rw [(readsAs_comment free).uncommented_append]
  exact String.empty_append

/-- What is to be a comment and has the mark for the end of one in it is read as a shorter one. -/
theorem exists_shorter_comment {body : List Char} (ends : ['*', '/'] <:+: body) (t : String) :
    ∃ text ls, comments (String.ofList (commentChars body) ++ t) = String.ofList text :: ls ∧
      text.length < (commentChars body).length := by
  obtain ⟨before, after, rfl, first⟩ := exists_first_pair ends
  have whole : commentChars (before ++ '*' :: '/' :: after) ++ t.toList =
      '/' :: '*' :: (before ++ '*' :: '/' :: (after ++ ('*' :: '/' :: t.toList))) := by
    simp [commentChars]
  refine ⟨commentChars before, (readPieces .outside (after ++ '*' :: '/' :: t.toList)).filterMap
    Piece.comment?, ?_, ?_⟩
  · rw [comments, String.toList_append, String.toList_ofList, whole, readPieces_comment first]
    rfl
  · simp [commentChars]

end Reading

end Typewright.Text
