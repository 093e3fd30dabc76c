import Typewright.FileTree
import Typewright.Misuse

/-!
# Writing several files together

Outputs are written in two steps. First each one is *staged*: the directory of its path is made,
and its text goes into a temporary file there. When all are staged, each temporary file is moved to
the path it is meant for. If staging fails, the temporary files are taken away again; if a move
fails, what was moved before stays moved.

The name of a temporary file is the name of the path between points, with a number in it that makes
it a name not in use. A path that is no text, or that no file system takes, is a misuse, and so is a
text that cannot be encoded. After a misuse what is staged stays. A text that cannot be encoded also
leaves its own temporary file, with nothing in it.
-/

namespace Typewright

/-- A text and the path it is meant for. -/
structure Output where
  /-- The path as it is given. -/
  path : Value
  /-- The text. -/
  code : String

/-- An output that is staged. -/
structure Staged where
  /-- The path as it is given. -/
  given : Value
  target : Path
  /-- The place of the temporary file. -/
  temporary : Place

/-- Why outputs are not written. -/
inductive WriteFailure where
  /-- An operation on files failed. -/
  | file (e : FileError)
  /-- A path or a text is misused. -/
  | misuse (m : Misuse)

namespace FileTree

/-! ## Directories -/

/-- A tree with a directory at the place that a path leads to. -/
def makeDirectory (t : FileTree) (directory : Place) (path : Path) : Except FileProblem FileTree :=
  match path.parts.getLast? with
  | none => .error .occupied
  | some last =>
    if isTooLong path.text then .error .nameTooLong
    else match t.locate directory path.parent with
    | .error e => .error e
    | .ok p =>
      match t.enter p last with
      | .error e => .error e
      | .ok q => if t.holds q then .error .occupied else .ok (t.put q .directory)

/-- Whether a path leads to a directory. -/
def leadsToDirectory (t : FileTree) (directory : Place) (path : Path) : Bool :=
  match t.lookup directory path with
  | .ok .directory => true
  | _ => false

/-- The outcome of making a directory that may be there already. -/
def settle (t : FileTree) (directory : Place) (path : Path) (e : FileProblem) :
    FileTree × Option FileError :=
  if t.leadsToDirectory directory path then (t, none) else (t, some ⟨e, path.text, none⟩)

/-- A tree with a directory at the place that a path leads to, and with those it lies in. -/
def makeDirectories (t : FileTree) (directory : Place) (path : Path) :
    FileTree × Option FileError :=
  match t.makeDirectory directory path with
  | .ok made => (made, none)
  | .error .missing =>
    if _h : path.parts = [] then (t, some ⟨.missing, path.text, none⟩)
    else
      match makeDirectories t directory path.parent with
      | (above, some e) => (above, some e)
      | (above, none) =>
        match above.makeDirectory directory path with
        | .ok made => (made, none)
        | .error .missing => (above, some ⟨.missing, path.text, none⟩)
        | .error e => above.settle directory path e
  | .error e => t.settle directory path e
termination_by path.parts.length
decreasing_by
  simp only [Path.parent, List.length_dropLast]
  have := List.length_pos_iff.2 _h
  omega

/-! ## Staging -/

/-- The name of the temporary file of a name, with a number in it. -/
def temporaryName (name : String) (n : Nat) : String :=
  let digits := Nat.toDigits 10 n
  "." ++ name ++ "." ++ String.ofList (List.replicate (8 - digits.length) '0' ++ digits) ++ ".tmp"

/-- The place of a new temporary file beside a name: the first whose number is not in use. -/
def temporaryPlace (t : FileTree) (p : Place) (name : String) : Place :=
  let candidate (n : Nat) : Place := p ++ [temporaryName name n]
  candidate (((List.range (t.entries.length + 1)).find? fun n => !t.holds (candidate n)).getD
    (t.entries.length + 1))

/-- The text of a place. -/
def placeText (p : Place) : String := "/" ++ String.intercalate "/" p

/-- A tree with the temporary file of an output at a place. A text that cannot be encoded leaves
the file as it is made, with nothing in it. -/
def fill (t : FileTree) (h : Text.Halves) (out : Output) (path : Path) (q : Place) :
    FileTree × Except WriteFailure Staged :=
  if h.encodes out.code then (t.put q (.file (Text.encode out.code)), .ok ⟨out.path, path, q⟩)
  else (t.put q (.file []), .error (.misuse .unencodable))

/-- A tree with the temporary file of an output, in a directory that is there. -/
def stageIn (t : FileTree) (h : Text.Halves) (directory : Place) (out : Output) (path : Path) :
    FileTree × Except WriteFailure Staged :=
  match path.misuse? h with
  | some m => (t, .error (.misuse m))
  | none =>
    match t.locate directory path.parent with
    | .error e => (t, .error (.file ⟨e, path.parent.text, none⟩))
    | .ok p =>
      let q := t.temporaryPlace p path.name
      if (q.getLast?.getD "").utf8ByteSize > maxName || isTooLong (placeText q) then
        (t, .error (.file ⟨.nameTooLong, placeText q, none⟩))
      else t.fill h out path q

/-- A tree with the temporary file of an output. -/
def stage (t : FileTree) (h : Text.Halves) (directory : Place) (out : Output) :
    FileTree × Except WriteFailure Staged :=
  match out.path.path with
  | .error m => (t, .error (.misuse m))
  | .ok s =>
    let path := Path.ofString s
    match path.parent.misuse? h with
    | some m => (t, .error (.misuse m))
    | none =>
      match t.makeDirectories directory path.parent with
      | (made, some e) => (made, .error (.file e))
      | (made, none) => made.stageIn h directory out path

/-- A tree with the temporary files of outputs up to the first that fails. -/
def stageAll (t : FileTree) (h : Text.Halves) (directory : Place) :
    List Output → FileTree × List Staged × Option WriteFailure
  | [] => (t, [], none)
  | out :: rest =>
      match t.stage h directory out with
      | (next, .error e) => (next, [], some e)
      | (next, .ok s) =>
        let (last, staged, failure) := next.stageAll h directory rest
        (last, s :: staged, failure)

/-! ## Moving -/

/-- A tree with a staged file moved to its path. -/
def move (t : FileTree) (directory : Place) (s : Staged) : Except FileError FileTree :=
  let failed (e : FileProblem) : Except FileError FileTree :=
    .error ⟨e, placeText s.temporary, some s.target.text⟩
  if isTooLong s.target.text then failed .nameTooLong
  else if s.target.name = "" ∨ s.target.name = Path.up then failed .busy
  else
    match t.locate directory s.target with
    | .error e => failed e
    | .ok q =>
      match t.get? q, t.get? s.temporary with
      | some .directory, _ => failed .isDirectory
      | _, some (.file content) => .ok ((t.remove s.temporary).put q (.file content))
      | _, _ => failed .missing

/-- A tree with staged files moved to their paths, up to the first that fails. -/
def moveAll (t : FileTree) (directory : Place) : List Staged → FileTree × Option FileError
  | [] => (t, none)
  | s :: rest =>
      match t.move directory s with
      | .error e => (t, some e)
      | .ok next => next.moveAll directory rest

/-! ## Writing -/

/-- A tree without the temporary files of what is staged. -/
def discard (t : FileTree) (staged : List Staged) : FileTree :=
  staged.foldl (fun t s => t.remove s.temporary) t

/-- A tree with outputs written, and for each its path, or the tree in which that failed and why. -/
def writeOutputs (t : FileTree) (h : Text.Halves) (directory : Place) (outs : List Output) :
    FileTree × Except WriteFailure (List (Value × Path)) :=
  match t.stageAll h directory outs with
  | (next, staged, some (.file e)) => (next.discard staged, .error (.file e))
  | (next, _, some (.misuse m)) => (next, .error (.misuse m))
  | (next, staged, none) =>
    match next.moveAll directory staged with
    | (last, some e) => (last, .error (.file e))
    | (last, none) => (last, .ok (staged.map fun s => (s.given, s.target)))

end FileTree

end Typewright
