import Typewright.Command.PictureNames
import Typewright.Text.Blank
import Typewright.Text.LetterCase
import Typewright.Text.Lines

/-!
# Pictures

A name between two colons, with no blank between them, stands for the picture of that name. A dash
and one of two words after the name say how the picture is to be shown. What names no picture stays
as it is, both its colons included.
-/

namespace Typewright.Picture

/-- Words two by two. -/
def pairs : List (List Char) → List (List Char × List Char)
  | name :: picture :: rest => (name, picture) :: pairs rest
  | _ => []

/-- Every picture with its name. -/
def all : List (List Char × List Char) := rows.flatMap fun s => pairs (Text.split ' ' s.toList)

/-- The picture of a name, in any letter case. -/
def ofName? (name : List Char) : Option (List Char) :=
  all.lookup (Text.lower (String.ofList name)).toList

/-- How a picture can be shown, with the characters that ask for it. -/
def manners : List (List Char × List Char) :=
  [("-text".toList, ['\ufe0e']), ("-emoji".toList, ['\ufe0f'])]

/-- The name of a code, and the characters that ask for a manner. -/
def nameAndManner (code : List Char) : List Char × List Char :=
  match manners.find? fun m => m.1.isSuffixOf code with
  | some m => (code.take (code.length - m.1.length), m.2)
  | none => (code, [])

/-- What a code between two colons is shown as. -/
def shown (code : List Char) : List Char :=
  let (name, manner) := nameAndManner code
  match ofName? name with
  | some picture => picture ++ manner
  | none => ':' :: (code ++ [':'])

/-- The characters before the next colon and those after it, if no blank comes first. -/
def toColon? : List Char → Option (List Char × List Char)
  | [] => none
  | c :: rest =>
      if c = ':' then some ([], rest)
      else if Text.isBlank c then none
      else (toColon? rest).map fun p => (c :: p.1, p.2)

theorem toColon?_length {cs a b : List Char} (h : toColon? cs = some (a, b)) :
    b.length < cs.length := by
  induction cs generalizing a b with
  | nil => simp [toColon?] at h
  | cons c rest ih =>
    unfold toColon? at h
    split at h
    · simp only [Option.some.injEq, Prod.mk.injEq] at h
      simp [← h.2]
    · split at h
      · simp at h
      · obtain ⟨p, hp, h⟩ := Option.map_eq_some_iff.1 h
        simp only [Prod.mk.injEq] at h
        have := ih (a := p.1) (b := p.2) hp
        simp only [List.length_cons, ← h.2]
        omega

/-- A text with its codes shown. -/
def expand (cs : List Char) : List Char :=
  match cs with
  | [] => []
  | c :: rest =>
    if c = ':' then
      match _h : toColon? rest with
      | some (code, after) => shown code ++ expand after
      | none => c :: expand rest
    else c :: expand rest
termination_by cs.length
decreasing_by
  · have := toColon?_length _h
    simp only [List.length_cons]
    omega
  · simp
  · simp

end Typewright.Picture
