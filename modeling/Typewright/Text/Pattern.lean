import Typewright.Text.Blank

/-!
# Patterns

A *pattern* says how a text goes on from a place. It may fit in more than one way, and its ends are
listed in the order in which they are preferred (`Pattern.ends`): what may be left out is taken
first, and a run of characters is as long as possible first. Where what follows in a pattern does
not fit at one end, the next end is tried.

In a text the first place at which a pattern fits at all decides, and there the first of its ends
(`Pattern.find?`). A pattern may *keep* what one of its parts goes over.
-/

namespace Typewright.Text

/-- A place in a text, and what was kept on the way to it. -/
structure Cursor where
  /-- The character before the place, unless the text starts there. -/
  before : Option Char
  /-- The text after the place. -/
  rest : List Char
  /-- The text after the start of the part that is kept. -/
  opened : List Char
  /-- The text after the end of the part that is kept. -/
  closed : List Char

namespace Cursor

/-- A place at which nothing has been kept. -/
def fresh (before : Option Char) (rest : List Char) : Cursor := ⟨before, rest, [], []⟩

/-- Whether a line starts here. -/
def startsLine (s : Cursor) : Bool := s.before.all (· == '\n')

/-- What was kept. -/
def kept (s : Cursor) : List Char := s.opened.take (s.opened.length - s.closed.length)

/-- The places that a run of characters of a class leads to, the nearest first. -/
def along (p : Char → Bool) (before : Option Char) (opened closed : List Char) :
    List Char → List Cursor
  | [] => [⟨before, [], opened, closed⟩]
  | c :: rest =>
      ⟨before, c :: rest, opened, closed⟩ ::
        if p c then along p (some c) opened closed rest else []

end Cursor

/-- How a text may go on. -/
inductive Pattern where
  /-- A line starts. -/
  | lineStart
  /-- One character of a class. -/
  | one (p : Char → Bool)
  /-- Characters of a class, as many as possible. -/
  | many (p : Char → Bool)
  /-- A pattern, if it fits. -/
  | maybe (r : Pattern)
  /-- One pattern and then another. -/
  | seq (r t : Pattern)
  /-- A pattern. What it goes over is kept. -/
  | keep (r : Pattern)

namespace Pattern

/-- The places where a pattern ends that starts at a place, the preferred ones first. -/
def ends : Pattern → Cursor → List Cursor
  | lineStart, s => if s.startsLine then [s] else []
  | one p, s =>
      match s.rest with
      | [] => []
      | c :: rest => if p c then [{ s with before := some c, rest }] else []
  | many p, s => (Cursor.along p s.before s.opened s.closed s.rest).reverse
  | maybe r, s => r.ends s ++ [s]
  | seq r t, s => (r.ends s).flatMap t.ends
  | keep r, s => (r.ends s).map fun e => { e with opened := s.rest, closed := e.rest }

/-- The end of a pattern in a text, looked for from a place on. -/
def findFrom (r : Pattern) (before : Option Char) : List Char → Option Cursor
  | [] => (r.ends (.fresh before [])).head?
  | c :: rest => (r.ends (.fresh before (c :: rest))).head?.or (findFrom r (some c) rest)

/-- The end of a pattern in a text. -/
def find? (r : Pattern) (cs : List Char) : Option Cursor := r.findFrom none cs

/-- A given character. -/
def char (c : Char) : Pattern := one (· == c)

/-- A pattern after the blanks at the start of a line. The blanks may go over the ends of lines. -/
def indented (r : Pattern) : Pattern := seq lineStart (seq (many isBlank) r)

end Pattern

end Typewright.Text
