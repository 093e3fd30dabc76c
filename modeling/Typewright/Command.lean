import Typewright.Command.Arguments
import Typewright.Command.Console
import Typewright.Config.Warning
import Typewright.Datamodel.Document
import Typewright.FileTree.Outputs
import Typewright.Generation
import Typewright.Registry
import Typewright.Source

/-!
# The command

The command reads a document, generates the chosen targets, and writes each one to its file or to
standard output. `Command.run` says what that comes to: the files afterwards, what is written to
the two outputs, and how it ends.

Nothing is written unless every target is generated. What goes wrong is reported in words, with the
exit code 1. Only what no rule foresees, such as a misused value, is a *crash*. A crash can come at
any time, also when files are written already: a path whose name looks like a tag that closes
nothing cannot be reported, and a text with half of a pair cannot be printed.
-/

namespace Typewright.Command

/-- What the command can reach: what can be loaded, and a terminal with its styles. -/
structure Surroundings extends Typewright.Surroundings where
  /-- The styles of the terminal. -/
  styles : Markup.Styles

/-! ## How a command ends -/

/-- What no rule of the command foresees. -/
inductive Crash where
  /-- A value is misused. -/
  | misuse (m : Misuse)
  /-- The octets of a file are no text. -/
  | undecodable
  /-- A text exceeds a limit. -/
  | overLimit (limit : Json.Limit)
  /-- The authority of an address cannot be read. -/
  | unreadableUrl
  /-- A tag closes nothing. -/
  | markup
  deriving DecidableEq

/-- How a command ends. -/
inductive Ending where
  | exit (code : Nat)
  | crash (c : Crash)
  deriving DecidableEq

/-- What a command comes to. -/
structure Effect where
  /-- The files afterwards. -/
  tree : FileTree
  /-- What is written to standard output. -/
  output : String
  /-- What is written to standard error, which shows halves of pairs by their numbers
  (`Text.Halves.shown`). -/
  errors : String
  /-- How it ends. -/
  ending : Ending

/-- Why a command stops: with a message of its own, with a message about files, or with a crash. -/
inductive Trouble where
  /-- Something is wrong with what was asked for. -/
  | refused (message : String)
  /-- Something is wrong with files. -/
  | files (message : String)
  /-- Something no rule foresees. -/
  | crash (c : Crash)

namespace Trouble

/-- The trouble of an operation on files: a file that is missing is asked for. -/
def ofFile (e : FileError) : Trouble :=
  match e.problem with
  | .missing => .refused e.message
  | _ => .files e.message

/-- The trouble of a configuration that is not loaded. -/
def ofConfig : ConfigFailure → Trouble
  | .misuse m => .crash (.misuse m)
  | .undecodable => .crash .undecodable
  | .overLimit limit => .crash (.overLimit limit)
  | .inaccessible e => ofFile e
  | e => .refused e.message

/-- The trouble of a name that is not resolved. -/
def ofRegistry : RegistryFailure → Trouble
  | .misuse m => .crash (.misuse m)
  | e => .refused e.message

/-- The trouble of a document that is not loaded. -/
def ofLoad : LoadFailure → Trouble
  | .undecodable => .crash .undecodable
  | .overLimit limit => .crash (.overLimit limit)
  | .unreadableUrl => .crash .unreadableUrl
  | .inaccessible e => ofFile e
  | e => .refused e.message

/-- The trouble of a document that is not read. -/
def ofFault : Fault → Trouble
  | .misuse m => .crash (.misuse m)
  | e => .refused e.message

/-- The trouble of outputs that are not written. -/
def ofWrite : WriteFailure → Trouble
  | .misuse m => .crash (.misuse m)
  | .file e => ofFile e

end Trouble

/-- A step of a command that may be trouble. -/
abbrev Step (α : Type) := Except Trouble α

/-- A failure as the trouble it is. -/
def Step.of {ε α : Type} (trouble : ε → Trouble) : Except ε α → Step α
  | .ok a => .ok a
  | .error e => .error (trouble e)

/-! ## What the arguments ask for -/

/-- The entry of a text that is given. -/
def textEntry (s : Setting) (v : Option String) : Entries :=
  match v with
  | none => []
  | some text => if text = "" then [] else [(s.name, .str text)]

/-- The entry of a flag that is given. -/
def flagEntry (s : Setting) (v : Option Bool) : Entries :=
  v.toList.map fun b => (s.name, .bool b)

/-- The entries that the arguments give. -/
def overrides (a : Arguments) : Entries :=
  textEntry .output a.output ++ textEntry .zodOutput a.zodOutput ++
    textEntry .pgOutput a.pgOutput ++ textEntry .modelType a.modelType ++
    textEntry .enumType a.enumType ++ flagEntry .optionalNullables a.optionalNullables ++
    flagEntry .omitRelations a.omitRelations ++ flagEntry .optionalRelations a.optionalRelations ++
    (if a.format then [(Setting.formatOutput.name, .bool true)] else [])

/-- The configuration that the arguments ask for. -/
def config (s : Surroundings) (a : Arguments) : Step Config :=
  Step.of Trouble.ofConfig
    (Config.load s.configReader s.tree s.directory (a.config.getD "") (.object (overrides a)))

/-- The name that a target is given by: an empty list if it is given without a value. -/
def targetName (given : Option String) : Value := (given.map Value.str).getD (.list [])

/-- Names resolved one after the other, each target once. -/
def resolveAll (r : Registry) (done : List Target) : List (Option String) → Step (List Target)
  | [] => .ok done
  | given :: rest => do
      let t ← Step.of Trouble.ofRegistry (r.target (targetName given))
      resolveAll r (if done.contains t then done else done ++ [t]) rest

/-- The targets to generate: those that are named, or else the declarations, and the others if they
have files. -/
def targets (a : Arguments) (c : Config) : Step (List Target) :=
  if a.targets.isEmpty then
    .ok ([Target.typeScript] ++ [Target.zod, .pg].filter fun t => c.flag t.outputSetting)
  else resolveAll Registry.standard [] a.targets

/-! ## Generated targets -/

/-- The targets that are generated, with their code, and those that are not, with the reason. -/
def partition : List (Target × Result) → List (Target × Generated) × List (Target × Failed)
  | [] => ([], [])
  | (t, r) :: rest =>
      let (good, bad) := partition rest
      match r with
      | .ok g => ((t, g) :: good, bad)
      | .error f => (good, (t, f) :: bad)

/-- The path of a target, if it has one. -/
def outputPath? (c : Config) (t : Target) : Option Value :=
  let v := c.value t.outputSetting
  if v.truthy then some v else none

/-- An output added to others: of two with one path the last code counts, in the first place. -/
def addOutput (outs : List Output) (new : Output) : List Output :=
  match outs with
  | [] => [new]
  | o :: rest =>
      if o.path.key? = new.path.key? then { o with code := new.code } :: rest
      else o :: addOutput rest new

/-- The outputs of generated targets. -/
def outputs (c : Config) : List Output → List (Target × Generated) → Except Misuse (List Output)
  | done, [] => .ok done
  | done, (t, g) :: rest =>
      match outputPath? c t with
      | none => outputs c done rest
      | some path =>
        match path.key with
        | .ok _ => outputs c (addOutput done ⟨path, g.code⟩) rest
        | .error m => .error m

/-! ## Reports -/

/-- The figures of a generated target, with their names. -/
def figureRows (f : Figures) : List (String × String) :=
  [("Language", f.target.name), ("File Extension", f.target.extension),
    ("Models", toString f.models), ("Enums", toString f.enums), ("Types", toString f.types),
    ("Fields", toString f.fields),
    ("Custom Types", (Value.list (f.helpers.map .str)).literal)]

/-- The table of the figures of a generated target. -/
def figureTable (f : Figures) : String :=
  Console.plainTable ("📊 " ++ f.target.name ++ " Generation Metadata") ("Property", "Value")
    (figureRows f)

/-- The lines of the warnings of a target. -/
def warningLines (t : Target) (warnings : List String) : String :=
  if warnings.isEmpty then ""
  else
    Console.line ("\n[yellow]⚠️  " ++ t.name ++ " warnings:[/yellow]") ++
      String.join (warnings.map fun w =>
        Console.line ("  [yellow]•[/yellow] " ++ Markup.escape w))

/-- The line about a target that was written to a file, with markup. The path is not escaped. -/
def writtenLine (t : Target) (path : Path) : String :=
  "[green]✓[/green] Generated " ++ t.name ++ " code saved to [cyan]" ++ path.text ++ "[/cyan]"

/-- The line about a target that was not generated. -/
def failedLine (t : Target) (f : Failed) : String :=
  Console.line ("[red]✗ " ++ t.name ++ " generation failed:[/red] " ++ Markup.escape f.message)

/-- The line about a warning on the configuration. -/
def configWarningLine (w : Warning) : String :=
  Console.line ("[yellow]⚠️  " ++ Markup.escape w.message ++ "[/yellow]")

/-- What is reported. -/
structure Report where
  /-- What is written to standard output. -/
  output : String
  /-- What is written to standard error. -/
  errors : String
  /-- The crash that cuts the report short. -/
  crash? : Option Crash

/-- A report followed by another one, unless it is cut short. -/
def Report.followedBy (r next : Report) : Report :=
  match r.crash? with
  | some _ => r
  | none => ⟨r.output ++ next.output, r.errors ++ next.errors, next.crash?⟩

/-- What is reported about the code of a target: that it was written to a path, or else the code
itself. -/
def reportCode (s : Surroundings) (written : Option Path) (t : Target) (g : Generated) : Report :=
  match written with
  | some path =>
    if s.styles.accepts (writtenLine t path) then ⟨"", Console.line (writtenLine t path), none⟩
    else ⟨"", "", some .markup⟩
  | none =>
    if s.halves.encodes g.code then ⟨g.code, "", none⟩
    else ⟨"", "", some (.misuse .unencodable)⟩

/-- What is reported about a generated target: its code goes to standard output unless it was
written, and all else to standard error. -/
def report (s : Surroundings) (verbose : Bool) (written : Option Path) (t : Target)
    (g : Generated) : Report :=
  (reportCode s written t g).followedBy
    ⟨"", (if verbose then figureTable g.figures else "") ++ warningLines t g.warnings, none⟩

/-- The path that an output was written to. -/
def pathOf? (written : List (Value × Path)) (v : Value) : Option Path :=
  (written.find? fun e => e.1.key? = v.key?).map (·.2)

/-- The reports about generated targets one after the other. -/
def reports (s : Surroundings) (verbose : Bool) (c : Config) (written : List (Value × Path)) :
    List (Target × Generated) → Report
  | [] => ⟨"", "", none⟩
  | (t, g) :: rest =>
      (report s verbose ((outputPath? c t).bind (pathOf? written)) t g).followedBy
        (reports s verbose c written rest)

/-! ## Running -/

/-- The effect of stopping with trouble. -/
def stopped (tree : FileTree) (errors : String) : Trouble → Effect
  | .refused message =>
      ⟨tree, "", errors ++ Console.line ("[red]✗ Error:[/red] " ++ Markup.escape message),
        .exit 1⟩
  | .files message =>
      ⟨tree, "",
        errors ++ Console.line ("[red]✗ Failed to write output:[/red] " ++ Markup.escape message),
        .exit 1⟩
  | .crash c => ⟨tree, "", errors, .crash c⟩

/-- The outputs written and reported, when every target is generated. -/
def deliver (s : Surroundings) (a : Arguments) (c : Config) (errors : String)
    (good : List (Target × Generated)) : Effect :=
  match outputs c [] good with
  | .error m => stopped s.tree errors (.crash (.misuse m))
  | .ok outs =>
    match s.tree.writeOutputs s.halves s.directory outs with
    | (tree, .error e) => stopped tree errors (Trouble.ofWrite e)
    | (tree, .ok written) =>
      let r := reports s a.verbose c written good
      ⟨tree, r.output, errors ++ r.errors, (r.crash?.map .crash).getD (.exit 0)⟩

/-- The targets generated for a data model, and delivered. -/
def generateAll (s : Surroundings) (a : Arguments) (c : Config) (ts : List Target)
    (errors : String) (d : Datamodel) : Effect :=
  let (good, bad) := partition (ts.map fun t => (t, generate t s.directory c d))
  let shown := errors ++ "\n"
  if bad.isEmpty then deliver s a c shown good
  else
    ⟨s.tree, "", shown ++ String.join (bad.map fun p => failedLine p.1 p.2), .exit 1⟩

/-- The configuration with its warnings. -/
def configured (s : Surroundings) (a : Arguments) : Step (Config × List Warning) := do
  let c ← config s a
  let ws ← Step.of (fun m => Trouble.crash (.misuse m)) c.warnings
  return (c, ws)

/-- The targets and the document. -/
def loaded (s : Surroundings) (a : Arguments) (c : Config) : Step (List Target × Loaded) := do
  let ts ← targets a c
  let l ← Step.of Trouble.ofLoad
    (Source.loadDocument s.toSurroundings (a.file.getD "") (a.url.getD "") a.stdin)
  return (ts, l)

/-- Whether the arguments name a document. -/
def namesSource (a : Arguments) : Bool :=
  a.file.getD "" != "" || a.url.getD "" != "" || a.stdin

/-- What generating comes to. -/
def runGeneration (s : Surroundings) (a : Arguments) : Effect :=
  if !namesSource a then
    stopped s.tree "" (.refused "Input source required (file, --url, or --stdin)")
  else match configured s a with
  | .error e => stopped s.tree "" e
  | .ok (c, ws) =>
    let warned := String.join (ws.map configWarningLine)
    match loaded s a c with
    | .error e => stopped s.tree warned e
    | .ok (ts, l) =>
      let told := warned ++ Console.line ("Loaded: " ++ Markup.escape l.source)
      match Document.read l.data with
      | .error f => stopped s.tree told (Trouble.ofFault f)
      | .ok d => generateAll s a c ts told d

/-- The row of a target in the list of targets. -/
def targetRow (r : Registry) (name : String) : List String :=
  match r.info (.str name) with
  | .ok i =>
    [name, i.target.extension, i.target.generatorName,
      if i.aliases.isEmpty then "none" else String.intercalate ", " i.aliases]
  | .error _ => [name]

/-- The list of targets. -/
def targetList (r : Registry) : String :=
  Console.framedTable "📋 Supported Targets" ["Target", "Extension", "Generator Class", "Aliases"]
    (r.names.map (targetRow r)) ++
  Console.panel "💡 Quick Start" "Usage: schema-typegen dmmf.json --target TARGET"

/-- The name of the command. -/
def programName : String := "schema-typegen"

/-- The version of the command. -/
def programVersion : String := "0.1.0"

/-- The arguments that the command takes, in short. -/
def helpText : String :=
  "usage: " ++ programName ++ " [options] [file]\n" ++
    String.join (Switch.all.map fun s => "  " ++ String.intercalate ", " s.spellings ++ "\n")

/-- What the command comes to. -/
def run (s : Surroundings) (arguments : List String) : Effect :=
  match parse arguments with
  | .error (.rejected r) =>
    ⟨s.tree, "", programName ++ ": error: " ++ r.message ++ "\n", .exit 2⟩
  | .error .help => ⟨s.tree, helpText, "", .exit 0⟩
  | .error .version => ⟨s.tree, programName ++ " " ++ programVersion ++ "\n", "", .exit 0⟩
  | .ok a =>
    if a.logLevel.isNone then stopped s.tree "" (.crash (.misuse (.notLevel .list)))
    else if a.listTargets then ⟨s.tree, targetList Registry.standard, "", .exit 0⟩
    else runGeneration s a

end Typewright.Command
