import Typewright.Command.Switch
import Typewright.Text.DecimalDigit
import Typewright.Text.Quoted

/-!
# Arguments of the command line

The arguments of a command are read in two passes. The first tells switches from plain arguments,
each on its own: a switch may be cut short as long as it stays clear which one is meant, may carry
its value after `=`, and, if it is a single letter, right behind the letter. After `--` every
argument is plain. The second pass goes from left to right, gives each switch its value, and takes
the first plain argument as the file of the document. A switch whose attached value is `--` counts
as given, and has no value.

What is wrong with the arguments is a `Rejection`, worded by `Rejection.message`.
-/

namespace Typewright.Command

/-! ## What arguments say -/

/-- What the arguments of a command say. -/
structure Arguments where
  /-- The file of the document. -/
  file : Option String := none
  /-- The address of the document. -/
  url : Option String := none
  /-- Whether the document comes from standard input. -/
  stdin : Bool := false
  /-- The file of the configuration. -/
  config : Option String := none
  /-- The targets, in order: one that was given without a value is none. -/
  targets : List (Option String) := []
  /-- The file of the declarations. -/
  output : Option String := none
  /-- The file of the schemas. -/
  zodOutput : Option String := none
  /-- The file of the data access. -/
  pgOutput : Option String := none
  /-- The shape of models. -/
  modelType : Option String := none
  /-- The shape of enums. -/
  enumType : Option String := none
  /-- Whether what may be null is optional. -/
  optionalNullables : Option Bool := none
  /-- Whether relations are left out. -/
  omitRelations : Option Bool := none
  optionalRelations : Option Bool := none
  /-- Whether the code is tidied. -/
  format : Bool := false
  /-- Whether the targets are asked for. -/
  listTargets : Bool := false
  /-- Whether figures are shown. -/
  verbose : Bool := false
  logLevel : Option String := some "WARNING"

/-- What is wrong with the arguments of a command. -/
inductive Rejection where
  /-- A switch is cut too short. -/
  | ambiguous (argument : String) (options : List String)
  /-- A switch lacks its value. -/
  | noValue (switch : Switch)
  /-- A switch has a value and takes none. -/
  | unwantedValue (switch : Switch) (value : String)
  /-- The value of a switch is none of its words. -/
  | badChoice (switch : Switch) (value : String) (choices : List String)
  /-- Two ways to name the document. -/
  | conflict (first second : String)
  /-- Arguments that say nothing. -/
  | unrecognized (arguments : List String)

/-- The wording of a rejection. -/
def Rejection.message : Rejection → String
  | ambiguous argument options =>
      "ambiguous option: " ++ argument ++ " could match " ++ String.intercalate ", " options
  | noValue switch => "argument " ++ switch.title ++ ": expected one argument"
  | unwantedValue switch value =>
      "argument " ++ switch.title ++ ": ignored explicit argument " ++ Text.literal value
  | badChoice switch value choices =>
      "argument " ++ switch.title ++ ": invalid choice: " ++ Text.literal value ++
        " (choose from " ++ String.intercalate ", " (choices.map Text.literal) ++ ")"
  | conflict first second => "argument " ++ first ++ ": not allowed with argument " ++ second
  | unrecognized arguments => "unrecognized arguments: " ++ String.intercalate " " arguments

/-- How reading the arguments ends before all are read. -/
inductive Stop where
  /-- Something is wrong with them. -/
  | rejected (r : Rejection)
  /-- They ask for help. -/
  | help
  /-- They ask for the version. -/
  | version

/-! ## Telling switches from plain arguments -/

/-- What a single argument is. -/
inductive Token where
  /-- A plain argument. -/
  | plain
  /-- The dashes after which every argument is plain. -/
  | dashes
  /-- A switch under a spelling, with the text attached to it. -/
  | switch (s : Switch) (spelling : String) (attached : Option String)
  /-- Something with dashes that is no switch. -/
  | unknown

/-- The text before the first `=`, and the text after it if there is one. -/
def splitEquals (cs : List Char) : List Char × Option (List Char) :=
  (cs.takeWhile (· != '='), (cs.dropWhile (· != '=')).tail?)

/-- The spellings of switches that start with a text. -/
def completions (start : String) : List (String × Switch) :=
  Switch.table.filter fun e => start.toList.isPrefixOf e.1.toList

/-- What a text that starts with a dash may be short for. -/
def candidates (argument : String) : List (String × Switch × Option String) :=
  match argument.toList with
  | '-' :: '-' :: _ =>
      let (start, value) := splitEquals argument.toList
      (completions (String.ofList start)).map fun e => (e.1, e.2, value.map String.ofList)
  | '-' :: c :: rest =>
      (Switch.table.filter fun e => e.1 = String.ofList ['-', c]).map fun e =>
        (e.1, e.2, some (String.ofList rest))
  | _ => []

/-- Whether a text is digits to the end, where one line feed may follow them. -/
def isDigits (cs : List Char) : Bool :=
  let rest := cs.dropWhile Text.isDecimalDigit
  rest.length < cs.length && (rest.isEmpty || rest == ['\n'])

/-- Whether a text is a negative number. -/
def isNegativeNumber (cs : List Char) : Bool :=
  match cs with
  | '-' :: rest =>
    isDigits rest ||
      match rest.dropWhile Text.isDecimalDigit with
      | '.' :: places => isDigits places
      | _ => false
  | _ => false

/-- What a single argument before `--` is. -/
def classify (argument : String) : Except Stop Token :=
  let cs := argument.toList
  if cs.head? ≠ some '-' then .ok .plain
  else match Switch.ofSpelling? argument with
  | some s => .ok (.switch s argument none)
  | none =>
    if cs.length = 1 then .ok .plain
    else
      let (start, value) := splitEquals cs
      match value, Switch.ofSpelling? (String.ofList start) with
      | some v, some s => .ok (.switch s (String.ofList start) (some (String.ofList v)))
      | _, _ =>
        match candidates argument with
        | [(spelling, s, attached)] => .ok (.switch s spelling attached)
        | [] =>
          if isNegativeNumber cs || cs.contains ' ' then .ok .plain else .ok .unknown
        | several => .error (.rejected (.ambiguous argument (several.map (·.1))))

/-- An argument with what it is. -/
structure Item where
  /-- The argument. -/
  text : String
  /-- What it is. -/
  token : Token

/-- The arguments with what they are. -/
def tokens : List String → Except Stop (List Item)
  | [] => .ok []
  | "--" :: rest => .ok (⟨"--", .dashes⟩ :: rest.map fun a => ⟨a, .plain⟩)
  | a :: rest => do
      let token ← classify a
      return ⟨a, token⟩ :: (← tokens rest)

/-! ## Taking in what switches say -/

/-- What has been read so far. -/
structure Progress where
  /-- What the arguments say. -/
  arguments : Arguments := {}
  /-- Whether the place of the plain argument is taken. -/
  fileTaken : Bool := false
  /-- How the document was named so far, in the words of messages. -/
  sources : List String := []
  /-- Arguments that say nothing, in order. -/
  extras : List String := []

/-- The ways to name the document, of which one excludes the others. -/
def sourceTitles : List String := ["file", Switch.url.title, Switch.stdin.title]

/-- A way to name the document, unless there was another one before. -/
def Progress.addSource (p : Progress) (title : String) : Except Stop Progress :=
  match sourceTitles.find? fun other => other ≠ title ∧ p.sources.contains other with
  | some other => .error (.rejected (.conflict title other))
  | none => .ok { p with sources := title :: p.sources }

/-- A switch without a value, under a spelling, taken in. -/
def Progress.setFlag (p : Progress) (s : Switch) (spelling : String) : Except Stop Progress := do
  let positive := !("--no-".toList.isPrefixOf spelling.toList)
  let a := p.arguments
  let done (a : Arguments) : Except Stop Progress := .ok { p with arguments := a }
  match s with
  | .help => throw .help
  | .version => throw .version
  | .stdin => Progress.addSource { p with arguments := { a with stdin := true } } s.title
  | .optionalNullables => done { a with optionalNullables := some positive }
  | .omitRelations => done { a with omitRelations := some positive }
  | .optionalRelations => done { a with optionalRelations := some positive }
  | .format => done { a with format := true }
  | .listTargets => done { a with listTargets := true }
  | .verbose => done { a with verbose := true }
  | _ => done a

/-- The value that a text gives a switch: the dashes that end the switches give none. -/
def given (text : String) : Option String := if text = "--" then none else some text

/-- Refuses a value that is none of the words of its switch. -/
def checkChoice (s : Switch) (value : Option String) : Except Stop Unit :=
  match s.choices?, value with
  | some choices, some text =>
    if choices.contains text then .ok () else .error (.rejected (.badChoice s text choices))
  | _, _ => .ok ()

/-- A switch with its value taken in. -/
def Progress.setValue (p : Progress) (s : Switch) (text : String) : Except Stop Progress := do
  let value := given text
  checkChoice s value
  let a := p.arguments
  let done (a : Arguments) : Except Stop Progress := .ok { p with arguments := a }
  match s with
  | .url => Progress.addSource { p with arguments := { a with url := value } } s.title
  | .config => done { a with config := value }
  | .target => done { a with targets := a.targets ++ [value] }
  | .output => done { a with output := value }
  | .zodOutput => done { a with zodOutput := value }
  | .pgOutput => done { a with pgOutput := value }
  | .modelType => done { a with modelType := value }
  | .enumType => done { a with enumType := value }
  | .logLevel => done { a with logLevel := value }
  | _ => done a

/-- The plain argument taken in as the file of the document. -/
def Progress.setFile (p : Progress) (value : String) : Except Stop Progress :=
  Progress.addSource
    { p with arguments := { p.arguments with file := some value }, fileTaken := true } "file"

/-! ## Letters in a row -/

/-- What a row of letters behind a dash comes to. -/
structure Row where
  /-- Switches without values, in order, with their spellings. -/
  flags : List (Switch × String)
  /-- A switch that takes a value, with its value if that is attached. -/
  last : Option (Switch × Option String)

/-- A measure of what is attached to a letter. -/
def attachedSize : Option (List Char) → Nat
  | none => 0
  | some cs => cs.length + 1

/-- What is attached to a letter, if anything is. -/
def attachedTo (cs : List Char) : Option (List Char) := if cs.isEmpty then none else some cs

theorem attachedSize_attachedTo (cs : List Char) :
    attachedSize (attachedTo cs) ≤ cs.length + 1 := by
  unfold attachedTo
  split <;> simp [attachedSize]

/-- The row of letters that goes on with a switch, after the switches before it. -/
def rowFrom (flags : List (Switch × String)) (s : Switch) (spelling : String)
    (attached : Option (List Char)) : Except Stop Row :=
  match attached with
  | none => .ok (if s.takesValue then ⟨flags, some (s, none)⟩ else ⟨flags ++ [(s, spelling)], none⟩)
  | some cs =>
    let unwanted : Except Stop Row :=
      .error (.rejected (.unwantedValue s (String.ofList cs)))
    if s.takesValue then .ok ⟨flags, some (s, some (String.ofList cs))⟩
    else if "--".toList.isPrefixOf spelling.toList then unwanted
    else match cs with
    | [] => unwanted
    | c :: more =>
      let next := String.ofList ['-', c]
      match Switch.ofSpelling? next with
      | some t => rowFrom (flags ++ [(s, spelling)]) t next (attachedTo more)
      | none => unwanted
termination_by attachedSize attached
decreasing_by exact Nat.lt_succ_of_le (attachedSize_attachedTo more)

/-- The row that a switch with what is attached to it starts. -/
def row (s : Switch) (spelling : String) (attached : Option String) : Except Stop Row :=
  rowFrom [] s spelling (attached.map String.toList)

/-! ## Reading from left to right -/

/-- Switches without values taken in one after the other. -/
def Progress.setFlags (p : Progress) (flags : List (Switch × String)) : Except Stop Progress :=
  flags.foldlM (fun p f => p.setFlag f.1 f.2) p

/-- Whether a switch is still to come. -/
def anySwitch (items : List Item) : Bool :=
  items.any fun i => match i.token with
    | .switch .. | .unknown => true
    | _ => false

/-- Arguments that say nothing, put aside. -/
def Progress.putAside (p : Progress) (texts : List String) : Progress :=
  { p with extras := p.extras ++ texts }

/-- The arguments after the last switch: one of them may be the file, dashes on either side of it
being skipped, and the others say nothing. -/
def Progress.finish (p : Progress) (items : List Item) : Except Stop Progress :=
  let texts (items : List Item) : List String := items.map (·.text)
  let isDashes (i : Item) : Bool := match i.token with
    | .dashes => true
    | _ => false
  if p.fileTaken then .ok (p.putAside (texts items))
  else match items.dropWhile isDashes with
  | [] => .ok p
  | first :: rest => do
      let taken ← p.setFile first.text
      return taken.putAside (texts (rest.dropWhile isDashes))

/-- The arguments read from left to right. -/
def readItems (p : Progress) (items : List Item) : Except Stop Progress :=
  match items with
  | [] => p.finish []
  | i :: rest =>
    match i.token with
    | .switch s spelling attached => do
      let r ← row s spelling attached
      match r.last with
      | none =>
        readItems (← p.setFlags r.flags) rest
      | some (t, some value) =>
        let next ← p.setFlags r.flags
        readItems (← next.setValue t value) rest
      | some (t, none) =>
        match rest with
        | ⟨value, .plain⟩ :: after =>
          let next ← p.setFlags r.flags
          readItems (← next.setValue t value) after
        | _ => throw (.rejected (.noValue t))
    | .unknown => readItems (p.putAside [i.text]) rest
    | _ =>
      if anySwitch rest then
        if p.fileTaken then readItems (p.putAside [i.text]) rest
        else do readItems (← p.setFile i.text) rest
      else p.finish (i :: rest)
termination_by items.length

/-- What the arguments of a command say. -/
def parse (arguments : List String) : Except Stop Arguments := do
  let items ← tokens arguments
  let p ← readItems {} items
  if p.extras.isEmpty then return p.arguments
  else throw (.rejected (.unrecognized p.extras))

end Typewright.Command
