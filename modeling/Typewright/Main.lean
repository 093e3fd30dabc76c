import Typewright.Command

/-!
# The program

`main` runs the command on the files of the machine. It looks at the places that the arguments and
the configuration name, lets `Command.run` say what the command comes to, and makes the files so.
Addresses cannot be reached.

What the command changes is written beside its place first and moved there when all of it is
written.
-/

namespace Typewright.Program

/-! ## Places of interest -/

/-- The places on the way of a path from a directory. -/
def placesOf (directory : Place) (path : Path) : List Place :=
  let start := FileTree.origin directory path
  (List.range (path.parts.length + 1)).map fun n => Path.follow start (path.parts.take n)

/-- The paths of the files that arguments name. -/
def inputPaths (a : Command.Arguments) : List Path :=
  [a.file, a.config].filterMap fun p => p.map Path.ofString

/-- The paths of the files that a configuration names. -/
def outputPaths (c : Config) : List Path :=
  [Setting.output, .zodOutput, .pgOutput].filterMap fun s => (c.value s).str?.map Path.ofString

/-! ## Looking -/

/-- What is at a place of the machine: what cannot be read because it is no file is a directory. -/
def nodeAt (p : Place) : IO (Option Node) := do
  try
    return some (.file (← IO.FS.readBinFile (FileTree.placeText p)).toList)
  catch
    | .inappropriateType .. => return some .directory
    | _ => return none

/-- A tree with what is at a place of the machine, and above it. -/
def look (t : FileTree) (p : Place) : IO FileTree :=
  (List.range (p.length + 1)).foldlM (fun t n => do
    if t.holds (p.take n) then return t
    match ← nodeAt (p.take n) with
    | some node => return t.put (p.take n) node
    | none => return t) t

/-- A tree with what some paths lead to. -/
def lookAll (directory : Place) (t : FileTree) (paths : List Path) : IO FileTree :=
  (paths.flatMap (placesOf directory)).foldlM look t

/-! ## Making it so -/

/-- What one tree has that another has not. -/
def changes (before after : FileTree) : List (Place × Node) :=
  after.nodes.filter fun e => before.get? e.1 != some e.2

/-- The place where the new content of a file waits. -/
def waitingPlace (t : FileTree) (p : Place) : Place :=
  t.temporaryPlace p.dropLast (p.getLast?.getD "")

/-- Makes new directories, and writes new content beside its place. -/
def prepare (t : FileTree) (change : Place × Node) : IO Unit :=
  match change.2 with
  | .directory => IO.FS.createDirAll (FileTree.placeText change.1)
  | .file content =>
      IO.FS.writeBinFile (FileTree.placeText (waitingPlace t change.1)) ⟨content.toArray⟩

/-- Moves new content to its place. -/
def settle (t : FileTree) (change : Place × Node) : IO Unit :=
  match change.2 with
  | .directory => return ()
  | .file _ =>
      IO.FS.rename (FileTree.placeText (waitingPlace t change.1)) (FileTree.placeText change.1)

/-- Makes the files of the machine those of a tree. -/
def apply (before after : FileTree) : IO Unit := do
  let made := changes before after
  made.forM (prepare after)
  made.forM (settle after)

/-! ## Running -/

/-- What the command can reach with some files and a text on standard input. -/
def reaching (tree : FileTree) (directory : Place) (input : String) : Command.Surroundings where
  tree := tree
  directory := directory
  input := input
  reply _ := .noConnection
  halves := Json.Reader.usual.halves
  configDepth := Json.Reader.usual.depth
  fileDepth := Json.Reader.usual.depth
  inputDepth := Json.Reader.usual.depth
  styles := .plain

/-- What the command can reach. -/
def surroundings (directory : Place) (a : Command.Arguments) : IO Command.Surroundings := do
  let tree ← lookAll directory .empty (⟨"", []⟩ :: inputPaths a)
  let input ← if a.stdin then (← IO.getStdin).readToEnd else pure ""
  let near := reaching tree directory input
  match Command.config near a with
  | .error _ => return near
  | .ok c => return reaching (← lookAll directory tree (outputPaths c)) directory input

/-- What is said about a crash. -/
def crashText : Command.Crash → String
  | .misuse m => m.message
  | .undecodable => "a file is not UTF-8"
  | .overLimit limit => limit.message
  | .unreadableUrl => "the authority of the address cannot be read"
  | .markup => "a tag closes nothing"

/-- Ends the program as a command ends. -/
def finish (e : Command.Ending) : IO UInt32 := do
  match e with
  | .exit code => return UInt32.ofNat code
  | .crash c =>
      IO.eprintln (crashText c)
      return 1

/-- Runs the command with arguments. -/
def run (arguments : List String) : IO UInt32 := do
  let directory := (Path.ofString (toString (← IO.currentDir))).parts
  let near ← match Command.parse arguments with
    | .ok a => surroundings directory a
    | .error _ => pure (reaching .empty directory "")
  let effect := Command.run near arguments
  apply near.tree effect.tree
  IO.print effect.output
  IO.eprint (near.halves.shown effect.errors)
  finish effect.ending

end Typewright.Program

/-- The entry point of the program. -/
def main (arguments : List String) : IO UInt32 := Typewright.Program.run arguments
