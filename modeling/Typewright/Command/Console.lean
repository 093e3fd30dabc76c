import Typewright.Command.Markup
import Typewright.Text.Cells
import Typewright.Text.Lines

/-!
# The console

What is shown on a terminal is set in cells. Lines are shown without the controls that would move
the cursor, and with tabs filled up to the next column that is a multiple of eight. Tables and
panels are framed by lines; a table is as wide as its columns need, and a panel as wide as the
console.
-/

namespace Typewright.Console

/-! ## Lines -/

/-- Controls that would move the cursor. -/
def isControl (c : Char) : Bool :=
  c == '\x07' || c == '\x08' || c == '\x0b' || c == '\x0c' || c == '\r'

/-- The text before the first tab, and the text after it if there is one. -/
def splitTab (cs : List Char) : List Char × Option (List Char) :=
  (cs.takeWhile (· != '\t'), (cs.dropWhile (· != '\t')).tail?)

theorem splitTab_length {cs before after : List Char} (h : splitTab cs = (before, some after)) :
    after.length < cs.length := by
  simp only [splitTab, Prod.mk.injEq] at h
  have hd : (cs.dropWhile (· != '\t')).length ≤ cs.length :=
    (List.dropWhile_suffix _).length_le
  have ht := h.2
  cases hs : cs.dropWhile (· != '\t') with
  | nil => simp [hs] at ht
  | cons c rest =>
    simp only [hs, List.tail?_cons, Option.some.injEq] at ht
    simp only [hs, List.length_cons] at hd
    rw [← ht]
    omega

/-- A line with its tabs filled up, from a column on. A tab is one space at least, which belongs to
the text before it. -/
def fillTabs (column : Nat) (cs : List Char) : List Char :=
  match _h : splitTab cs with
  | (last, none) => last
  | (before, some after) =>
    let part := before ++ [' ']
    let reached := column + Text.countCells 0 none part
    let gap := (8 - reached % 8) % 8
    part ++ List.replicate gap ' ' ++ fillTabs (reached + gap) after
termination_by cs.length
decreasing_by exact splitTab_length _h

/-- A text as it is shown. -/
def plain (s : String) : String :=
  Text.mapLines (fillTabs 0) (String.ofList (s.toList.filter fun c => !isControl c))

/-- A line with markup as it is shown. -/
def line (markup : String) : String := plain (Markup.shown markup) ++ "\n"

/-! ## Tables -/

/-- A number of spaces. -/
def spaces (n : Nat) : String := String.ofList (List.replicate n ' ')

/-- A number of equal characters. -/
def rule (n : Nat) (c : Char) : String := String.ofList (List.replicate n c)

/-- A text filled up with spaces to a number of cells. -/
def padded (n : Nat) (s : String) : String := s ++ spaces (n - Text.cellCount s)

/-- A text in the middle of a number of cells. -/
def centred (n : Nat) (s : String) : String :=
  let gap := n - Text.cellCount s
  spaces (gap / 2) ++ s ++ spaces (gap - gap / 2)

/-- The cells that each column of a table needs. -/
def columnWidths (rows : List (List String)) : List Nat :=
  (List.range ((rows.map List.length).foldl max 0)).map fun i =>
    (rows.map fun r => Text.cellCount (r[i]?.getD "")).foldl max 0

/-- A line of a framed table, between and around its columns. -/
def frameLine (left between right : String) (widths : List Nat) : String :=
  left ++ String.intercalate between (widths.map fun n => rule (n + 2) '─') ++ right

/-- A row of a framed table. -/
def frameRow (widths : List Nat) (row : List String) : String :=
  "│" ++ String.intercalate "│"
    ((widths.zip row).map fun p => " " ++ padded p.1 p.2 ++ " ") ++ "│"

/-- A table in a frame, with a title above it and a line below the names of its columns. -/
def framedTable (title : String) (names : List String) (rows : List (List String)) : String :=
  let widths := columnWidths (names :: rows)
  let top := frameLine "╭" "┬" "╮" widths
  String.join ((
    [centred (Text.cellCount top) title, top, frameRow widths names,
      frameLine "├" "┼" "┤" widths] ++
      rows.map (frameRow widths) ++ [frameLine "╰" "┴" "╯" widths]).map (· ++ "\n"))

/-- A row of a plain table of two columns. -/
def plainRow (first second : Nat) (row : String × String) : String :=
  "  " ++ padded first row.1 ++ "   " ++ padded second row.2 ++ "  "

/-- A table of two columns without a frame, with a title above it, a line below the names of its
columns, and empty lines around it. -/
def plainTable (title : String) (names : String × String) (rows : List (String × String)) :
    String :=
  let columnWidth (cell : String × String → String) : Nat :=
    ((names :: rows).map fun r => Text.cellCount (cell r)).foldl max 0
  let first := columnWidth Prod.fst
  let second := columnWidth Prod.snd
  let empty := spaces (first + second + 7)
  String.join ((
    [title, empty, plainRow first second names,
      " " ++ rule (first + second + 5) '─' ++ " "] ++
      rows.map (plainRow first second) ++ [empty]).map (· ++ "\n"))

/-! ## Panels -/

/-- The cells of a line of the console. -/
def lineWidth : Nat := 100

/-- A text in a frame of the width of the console, with a title in its upper side. -/
def panel (title text : String) : String :=
  let inner := lineWidth - 2
  let shownTitle := " " ++ title ++ " "
  let gap := inner - Text.cellCount shownTitle
  "╭" ++ rule (gap / 2) '─' ++ shownTitle ++ rule (gap - gap / 2) '─' ++ "╮\n" ++
    "│ " ++ padded (inner - 2) text ++ " │\n" ++
    "╰" ++ rule inner '─' ++ "╯\n"

end Typewright.Console
