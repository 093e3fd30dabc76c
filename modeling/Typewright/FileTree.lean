import Typewright.Misuse
import Typewright.Text.Utf8

/-!
# File trees

A *file tree* says what is at each *place*: a regular file with its octets, a directory, or
nothing. A place is the list of names on the way from the root, which is always a directory. A path
leads to a place step by step, and every step but the last has to go through a directory that is
there.
-/

namespace Typewright

/-! ## Errors -/

/-- Why an operation on files fails. -/
inductive FileProblem where
  /-- There is nothing at the place. -/
  | missing
  /-- There is something at the place already. -/
  | occupied
  /-- A step leads through something that is no directory. -/
  | notDirectory
  /-- A directory stands where a file is needed. -/
  | isDirectory
  /-- The place is a directory in use. -/
  | busy
  /-- A name or a path has more octets than a file system takes. -/
  | nameTooLong
  deriving DecidableEq, Repr

namespace FileProblem

/-- The number of a problem. -/
def number : FileProblem → Nat
  | missing => 2
  | occupied => 17
  | notDirectory => 20
  | isDirectory => 21
  | busy => 16
  | nameTooLong => 36

/-- The wording of a problem. -/
def message : FileProblem → String
  | missing => "No such file or directory"
  | occupied => "File exists"
  | notDirectory => "Not a directory"
  | isDirectory => "Is a directory"
  | busy => "Device or resource busy"
  | nameTooLong => "File name too long"

end FileProblem

/-- An operation on files that failed, with the path it was about, and the path that something was
to be moved to. -/
structure FileError where
  /-- Why it failed. -/
  problem : FileProblem
  path : String
  /-- The path to move to. -/
  target : Option String
  deriving DecidableEq, Repr

/-- The wording of a failed operation. -/
def FileError.message (e : FileError) : String :=
  "[Errno " ++ toString e.problem.number ++ "] " ++ e.problem.message ++ ": " ++
    Text.literal e.path ++
    (match e.target with
      | some t => " -> " ++ Text.literal t
      | none => "")

/-! ## Trees -/

/-- The names on the way from the root. -/
abbrev Place := List String

/-- What is at a place. -/
inductive Node where
  /-- A regular file. -/
  | file (content : List UInt8)
  | directory
  deriving DecidableEq, Repr

/-- A place where something is. Its depth is kept beside it, so that places of different depths are
told apart without looking at their names. -/
structure Entry where
  place : Place
  /-- What is there. -/
  node : Node
  /-- The number of names on the way from the root. -/
  depth : Nat
  depth_eq : depth = place.length

/-- Whether something is at a place, whose depth is given. -/
def Entry.isAt (e : Entry) (p : Place) (depth : Nat) : Bool := e.depth == depth && e.place == p

theorem Entry.isAt_eq (e : Entry) (p : Place) : e.isAt p p.length = decide (e.place = p) := by
  rw [Bool.eq_iff_iff, isAt, Bool.and_eq_true, beq_iff_eq, beq_iff_eq, decide_eq_true_iff]
  exact ⟨And.right, fun h => ⟨e.depth_eq.trans (congrArg List.length h), h⟩⟩

/-- What is at each place. -/
structure FileTree where
  /-- The places below the root where something is, each once. -/
  entries : List Entry

namespace FileTree

/-- The tree with nothing in it. -/
def empty : FileTree := ⟨[]⟩

/-- The places below the root where something is, with what is there. -/
def nodes (t : FileTree) : List (Place × Node) := t.entries.map fun e => (e.place, e.node)

/-- What is at a place. -/
def get? (t : FileTree) (p : Place) : Option Node :=
  let depth := p.length
  if depth = 0 then some .directory else (t.entries.find? (·.isAt p depth)).map (·.node)

/-- A tree with nothing at a place. -/
def remove (t : FileTree) (p : Place) : FileTree :=
  let depth := p.length
  ⟨t.entries.filter fun e => !e.isAt p depth⟩

/-- A tree with something at a place. -/
def put (t : FileTree) (p : Place) (n : Node) : FileTree :=
  ⟨(t.remove p).entries ++ [⟨p, n, p.length, rfl⟩]⟩

/-- Whether there is something at a place. -/
def holds (t : FileTree) (p : Place) : Bool := (t.get? p).isSome

/-- The octets of the file at a place. -/
def content? (t : FileTree) (p : Place) : Option (List UInt8) :=
  match t.get? p with
  | some (.file content) => some content
  | _ => none

/-- The most octets that a name may have. -/
def maxName : Nat := 255

/-- The most octets that a path may have. -/
def maxPath : Nat := 4095

/-- Whether the text of a path has too many octets. -/
def isTooLong (path : String) : Bool := path.utf8ByteSize > maxPath

/-- One step of a path from a place. -/
def enter (t : FileTree) (p : Place) (part : String) : Except FileProblem Place :=
  match t.get? p with
  | none => .error .missing
  | some (.file _) => .error .notDirectory
  | some .directory =>
    if part.utf8ByteSize > maxName then .error .nameTooLong
    else if part = Path.up then .ok p.dropLast
    else .ok (p ++ [part])

/-- The place where a path starts. -/
def origin (directory : Place) (path : Path) : Place := if path.root = "" then directory else []

/-- The place that a path leads to from a directory. A path that is too long is not followed. -/
def locate (t : FileTree) (directory : Place) (path : Path) : Except FileProblem Place :=
  if isTooLong path.text then .error .nameTooLong
  else path.parts.foldlM (enter t) (origin directory path)

/-- What is at the place that a path leads to. -/
def lookup (t : FileTree) (directory : Place) (path : Path) : Except FileProblem Node := do
  match t.get? (← t.locate directory path) with
  | some n => return n
  | none => throw .missing

/-- Whether a path leads to something. What is too long is an error, and other ways to lead nowhere
are not. -/
def pathExists (t : FileTree) (h : Text.Halves) (directory : Place) (path : Path) :
    Except FileError Bool :=
  if (path.misuse? h).isSome then .ok false
  else match t.lookup directory path with
  | .ok _ => .ok true
  | .error .nameTooLong => .error ⟨.nameTooLong, path.text, none⟩
  | .error _ => .ok false

/-- The octets of the file that a path leads to. -/
def read (t : FileTree) (directory : Place) (path : Path) : Except FileError (List UInt8) :=
  match t.lookup directory path with
  | .ok (.file content) => .ok content
  | .ok .directory => .error ⟨.isDirectory, path.text, none⟩
  | .error e => .error ⟨e, path.text, none⟩

/-- A tree with a file at the place that a path leads to. -/
def write (t : FileTree) (directory : Place) (path : Path) (content : List UInt8) :
    Except FileError FileTree :=
  let failed (e : FileProblem) : Except FileError FileTree := .error ⟨e, path.text, none⟩
  match t.locate directory path with
  | .error e => failed e
  | .ok p =>
    match t.get? p.dropLast, t.get? p with
    | _, some .directory => failed .isDirectory
    | some .directory, _ => .ok (t.put p (.file content))
    | some (.file _), _ => failed .notDirectory
    | none, _ => failed .missing

/-! ## What put and remove do -/

theorem get?_remove (t : FileTree) (p q : Place) (hp : p ≠ []) :
    (t.remove p).get? q = if q = p then none else t.get? q := by
  unfold get? remove
  simp only [Entry.isAt_eq, List.length_eq_zero_iff]
  by_cases hq : q = []
  · simp [hq, hp.symm]
  · by_cases h : q = p
    · subst h
      simp [hq, List.find?_filter]
    · have : (t.entries.filter fun e => !decide (e.place = p)).find? (fun e => e.place = q)
          = t.entries.find? (fun e => e.place = q) := by
        rw [List.find?_filter]
        congr 1
        funext e
        by_cases he : e.place = q
        · simp [he, h]
        · simp [he]
      simp only [hq, h, if_false, this]

theorem get?_put (t : FileTree) (p : Place) (n : Node) (q : Place) (hp : p ≠ []) :
    (t.put p n).get? q = if q = p then some n else t.get? q := by
  have hr := get?_remove t p q hp
  unfold put
  unfold get? at hr ⊢
  simp only [Entry.isAt_eq, List.length_eq_zero_iff, List.find?_append] at hr ⊢
  by_cases hq : q = []
  · have : q ≠ p := fun h => hp (h ▸ hq)
    simp [hq, hp.symm]
  · by_cases h : q = p
    · subst h
      simp only [hq, if_true, if_false, Option.map_eq_none_iff] at hr ⊢
      simp [hr]
    · have hpq : ¬ p = q := fun x => h x.symm
      simp only [hq, h, if_false] at hr ⊢
      rw [← hr]
      simp [hpq]

end FileTree

end Typewright
