import Typewright.Text.Blank
import Typewright.Text.Lines
import Typewright.Text.Quoted

/-!
# Layout of generated code

The shapes that text takes in generated code: indented lines, commented lines, a documentation
block, and code tidied so that no line ends in blanks and no two empty lines follow each other. All
of them work line by line, lines being separated by line feeds only.
-/

namespace Typewright.Layout

/-- A margin of spaces. -/
def margin (width : Nat) : List Char := List.replicate width ' '

/-- A line behind a margin, unless there is nothing on it. -/
def indentLine (width : Nat) (l : List Char) : List Char :=
  if Text.allBlank l then l else margin width ++ l

/-- A text with every line that holds something behind a margin. -/
def indent (width : Nat) (s : String) : String := Text.mapLines (indentLine width) s

/-- A line behind a comment mark and a space, without blanks at its end. -/
def commentLine (mark : List Char) (l : List Char) : List Char :=
  Text.dropBlanksEnd (mark ++ ' ' :: l)

/-- A text with every line behind a comment mark. -/
def comment (mark : String) (s : String) : String := Text.mapLines (commentLine mark.toList) s

/-- The lines of a documentation block over several lines. -/
def blockLines (width : Nat) (ls : List (List Char)) : List (List Char) :=
  (margin width ++ ['/', '*', '*']) ::
    (ls.map (fun l => Text.dropBlanksEnd (margin width ++ [' ', '*', ' '] ++ l)) ++
      [margin width ++ [' ', '*', '/']])

/-- A documentation block behind a margin: on one line if the text is. -/
def docComment (width : Nat) (s : String) : String :=
  let cs := s.toList
  if cs.contains '\n' then String.ofList (Text.unlines (blockLines width (Text.lines cs)))
  else String.ofList (margin width ++ ['/', '*', '*', ' '] ++ cs ++ [' ', '*', '/'])

/-! ## Tidy code -/

/-- Lines with runs of empty lines shrunk to one. The flag says whether the line before the first
is empty and kept. -/
def shrink (afterEmpty : Bool) : List (List Char) → List (List Char)
  | [] => []
  | [] :: ls => if afterEmpty then shrink true ls else [] :: shrink true ls
  | l :: ls => l :: shrink false ls

/-- The lines of a text, tidied. -/
def tidyLines (ls : List (List Char)) : List (List Char) :=
  shrink false (ls.map Text.dropBlanksEnd)

/-- A text without blanks at the ends of lines and without adjacent empty lines. -/
def tidy (s : String) : String :=
  String.ofList (Text.unlines (tidyLines (Text.lines s.toList)))

/-- A text without line feeds at either end. -/
def stripNewlines (s : String) : String :=
  String.ofList (((s.toList.dropWhile (· == '\n')).reverse.dropWhile (· == '\n')).reverse)

end Typewright.Layout
