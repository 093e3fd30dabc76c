import Typewright.Command.Picture
import Typewright.Text.LetterCase

/-!
# Markup

Lines for the terminal are written with *tags*: a bracket, one of a few first characters, and no
other bracket before the closing one. Tags say how a text looks and are not shown. A tag behind a
backslash stands for itself, and a pair of backslashes before a tag for one of them. The texts
between tags show pictures in the places of their names.

`Markup.escape` writes a text so that it shows as it is, names of pictures apart, and
`Markup.shown` is what a line shows.

A tag whose name starts with a slash closes the last open tag, or the last one of the name after the
slash. A line where it would close nothing is not shown at all (`Styles.accepts`). Two tags have one
name if the terminal has one style for both, so the names are a parameter, `Styles`.
-/

namespace Typewright.Markup

/-- Whether a character may come first in a tag. -/
def opensTag (c : Char) : Bool := ('a' ≤ c && c ≤ 'z') || c == '#' || c == '/' || c == '@'

/-- The text up to a closing bracket, with no opening one before it, and what follows it. -/
def tagRest? : List Char → Option (List Char × List Char)
  | [] => none
  | c :: rest =>
      if c = ']' then some ([']'], rest)
      else if c = '[' then none
      else (tagRest? rest).map fun p => (c :: p.1, p.2)

/-- The tag that a text starts with, and what follows it. -/
def tag? : List Char → Option (List Char × List Char)
  | '[' :: c :: rest =>
      if opensTag c then (tagRest? rest).map fun p => ('[' :: c :: p.1, p.2) else none
  | _ => none

theorem tagRest?_length {cs a b : List Char} (h : tagRest? cs = some (a, b)) :
    b.length < cs.length := by
  induction cs generalizing a b with
  | nil => simp [tagRest?] at h
  | cons c rest ih =>
    unfold tagRest? at h
    split at h
    · simp only [Option.some.injEq, Prod.mk.injEq] at h
      simp [← h.2]
    · split at h
      · simp at h
      · obtain ⟨p, hp, h⟩ := Option.map_eq_some_iff.1 h
        simp only [Prod.mk.injEq] at h
        have := ih (a := p.1) (b := p.2) hp
        simp only [List.length_cons, ← h.2]
        omega

theorem tag?_length {cs a b : List Char} (h : tag? cs = some (a, b)) : b.length < cs.length := by
  unfold tag? at h
  split at h
  · split at h
    · obtain ⟨p, hp, h⟩ := Option.map_eq_some_iff.1 h
      simp only [Prod.mk.injEq] at h
      have := tagRest?_length (a := p.1) (b := p.2) hp
      simp only [List.length_cons, ← h.2]
      omega
    · simp at h
  · simp at h

/-- A number of backslashes. -/
def slashes (n : Nat) : List Char := List.replicate n '\\'

/-- A text, after some backslashes, written so that it shows as it is. -/
def escapeFrom (before : Nat) (cs : List Char) : List Char :=
  match cs with
  | [] => slashes before
  | '\\' :: rest => escapeFrom (before + 1) rest
  | c :: rest =>
    match _h : tag? (c :: rest) with
    | some (tag, after) => slashes (2 * before + 1) ++ tag ++ escapeFrom 0 after
    | none => slashes before ++ c :: escapeFrom 0 rest
termination_by cs.length
decreasing_by
  · simp
  · exact tag?_length _h
  · simp

/-- A text written so that it shows as it is. A single backslash at the end is doubled, so that it
does not reach what follows. -/
def escape (s : String) : String :=
  let cs := escapeFrom 0 s.toList
  String.ofList (match cs.reverse with
    | ['\\'] => cs ++ ['\\']
    | '\\' :: c :: _ => if c = '\\' then cs else cs ++ ['\\']
    | _ => cs)

/-- What a line shows, after a text without tags, last character first, and some backslashes. -/
def shownFrom (text : List Char) (before : Nat) (cs : List Char) : List Char :=
  match cs with
  | [] => Picture.expand (text.reverse ++ slashes before)
  | '\\' :: rest => shownFrom text (before + 1) rest
  | c :: rest =>
    match _h : tag? (c :: rest) with
    | some (tag, after) =>
      Picture.expand text.reverse ++ slashes (before / 2) ++
        (if before % 2 = 1 then Picture.expand tag else []) ++ shownFrom [] 0 after
    | none =>
      shownFrom (c :: (slashes (if c = '[' then before - 1 else before) ++ text)) 0 rest
termination_by cs.length
decreasing_by
  · simp
  · exact tag?_length _h
  · simp

/-- What a line shows. -/
def shown (s : String) : String := String.ofList (shownFrom [] 0 s.toList)

/-! ## Open tags -/

/-- A tag: its name, and what follows after an equals sign. -/
structure Tag where
  name : String
  parameters : String

/-- The tag that is written between brackets. -/
def Tag.ofBrackets (cs : List Char) : Tag :=
  let inner := cs.tail.dropLast
  ⟨String.ofList (inner.takeWhile (· != '=')), String.ofList (inner.dropWhile (· != '=')).tail⟩

/-- The tags of a line that stand for no text, after some backslashes. -/
def tagsFrom (before : Nat) (cs : List Char) : List Tag :=
  match cs with
  | [] => []
  | '\\' :: rest => tagsFrom (before + 1) rest
  | c :: rest =>
    match _h : tag? (c :: rest) with
    | some (tag, after) =>
      (if before % 2 = 1 then [] else [Tag.ofBrackets tag]) ++ tagsFrom 0 after
    | none => tagsFrom 0 rest
termination_by cs.length
decreasing_by
  · simp
  · exact tag?_length _h
  · simp

/-- What a terminal knows of tags. -/
structure Styles where
  /-- The name of the style that a tag asks for. -/
  name : String → String
  /-- Whether the parameters of a handler can be read. -/
  reads : String → Bool

namespace Styles

/-- Styles named by the words of their tags. -/
def plain : Styles := ⟨fun name => Text.lower (Text.trim name), fun _ => true⟩

/-- Whether a tag can be closed: a handler only if its parameters can be read. -/
def canClose (styles : Styles) (tag : Tag) : Bool :=
  !(tag.name.startsWith "@" && tag.parameters != "") || styles.reads tag.parameters

/-- The open tags after one more tag, the last one first, unless it closes nothing. -/
def follow? (styles : Styles) (opened : List Tag) (tag : Tag) : Option (List Tag) :=
  match tag.name.toList with
  | '/' :: rest =>
    let wanted := Text.trim (String.ofList rest)
    let closes (t : Tag) : Bool := wanted == "" || t.name == styles.name wanted
    match opened.find? closes with
    | some t => if styles.canClose t then some (opened.eraseP closes) else none
    | none => none
  | _ => some ({ tag with name := styles.name tag.name } :: opened)

/-- Whether a line is shown: every tag that closes one finds it open. -/
def accepts (styles : Styles) (s : String) : Bool :=
  ((tagsFrom 0 s.toList).foldlM styles.follow? []).isSome

end Styles

end Typewright.Markup
