import Typewright.Text.Lines

/-!
# Paths

A path is a root, which may be empty, and the parts between slashes. Empty parts and parts that are
a single dot say nothing and are dropped when a path is read; parts that lead upwards are kept,
since what they lead to depends on the files.

`Path.resolve` looks at a path as text only: a part that leads upwards takes back the part before
it, and above the root there is nothing. `Path.between` is the way from one place to another.
-/

namespace Typewright

/-- A path. -/
structure Path where
  /-- The root: empty, one slash, or two. -/
  root : String
  /-- The parts. A path that was read has none that is empty or a single dot, but cutting a suffix
  off can leave a single dot behind. -/
  parts : List String
  deriving DecidableEq, Repr

namespace Path

/-- The part that leads upwards. -/
def up : String := ".."

/-- The part that stays where it is. -/
def here : String := "."

/-- Whether a part says where to go. -/
def isPart (s : String) : Bool := s != "" && s != here

/-- The root of a path: two slashes at its start are kept, and any other number is one. -/
def rootOf : List Char → String
  | ['/', '/'] => "//"
  | '/' :: '/' :: c :: _ => if c = '/' then "/" else "//"
  | '/' :: _ => "/"
  | _ => ""

/-- The parts of a text between slashes. -/
def partsOf (cs : List Char) : List String :=
  ((Text.split '/' cs).map String.ofList).filter isPart

/-- The path that a text gives. -/
def ofString (s : String) : Path := ⟨rootOf s.toList, partsOf s.toList⟩

/-- The text of a path. -/
def text (p : Path) : String :=
  if p.root = "" ∧ p.parts = [] then "." else p.root ++ String.intercalate "/" p.parts

/-- The last part, or nothing. -/
def name (p : Path) : String := p.parts.getLast?.getD ""

/-- The path without its last part. -/
def parent (p : Path) : Path := { p with parts := p.parts.dropLast }

/-- Whether a part of a path holds the null character, which no file system takes. -/
def holdsNull (p : Path) : Bool := p.parts.any fun part => part.toList.contains '\x00'

/-! ## Suffixes -/

/-- A name cut before its last point, if it has one with something on both sides. -/
def cutSuffix (name : String) : String × String :=
  let cs := name.toList.reverse
  let after := cs.takeWhile (· != '.')
  let before := cs.drop (after.length + 1)
  if after.length < cs.length ∧ after ≠ [] ∧ before ≠ [] then
    (String.ofList before.reverse, "." ++ String.ofList after.reverse)
  else (name, "")

/-- The suffix of the name, with its point. -/
def suffix (p : Path) : String := (cutSuffix p.name).2

/-- The path without the suffix of its name. There is none if there is no name. -/
def withoutSuffix? (p : Path) : Option Path :=
  if p.name = "" then none
  else some { p with parts := p.parts.dropLast ++ [(cutSuffix p.name).1] }

/-! ## Places -/

/-- One part followed from a place, the last part of the place first. -/
def step (place : List String) (part : String) : List String :=
  if part = up then place.tail else if part = here then place else part :: place

/-- Parts followed from a place, by text alone. -/
def follow (place parts : List String) : List String := (parts.foldl step place.reverse).reverse

/-- The place a path leads to from a directory. -/
def resolve (directory : List String) (p : Path) : List String :=
  follow [] (if p.root = "" then directory ++ p.parts else p.parts)

/-- What is left of two lists after what they start with in common. -/
def dropCommon : List String → List String → List String × List String
  | a :: as, b :: bs => if a = b then dropCommon as bs else (a :: as, b :: bs)
  | as, bs => (as, bs)

/-- The parts that lead from one place to another. -/
def between (start target : List String) : List String :=
  let (leave, enter) := dropCommon start target
  leave.map (fun _ => up) ++ enter

/-- The text of parts that lead somewhere. -/
def relativeText (parts : List String) : String :=
  if parts = [] then "." else String.intercalate "/" parts

end Path

end Typewright
