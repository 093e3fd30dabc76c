import Typewright.FileTree
import Typewright.Json.Octets
import Typewright.Source.Url

/-!
# Sources of documents

A document is read from a file, from an address, or from standard input. `Source.load` reads a
value from the file or address that is given, and exactly one has to be. `Source.loadDocument`
takes standard input as well, and wants an object that is a data model or holds one.

What an address answers is a `Reply`. Whether an answer is a success, and what value its content
is, is known with it; an answer that is refused, or whose content is no value, is a failure like any
other.
-/

namespace Typewright

/-! ## Replies -/

/-- What the content of an answer is read as. -/
inductive Content where
  | value (v : Value)
  /-- No JSON text, in the given words. -/
  | malformed (message : String)
  /-- A text that is not read for another reason, in the given words. -/
  | refused (message : String)
  /-- A text with too many lists and objects inside each other. -/
  | deep (container : Json.Container)

/-- What an address answers. -/
inductive Reply where
  /-- An answer with some content. -/
  | answer (content : Content)
  /-- An answer with a status that is a failure. -/
  | status (code : Nat)
  /-- No answer in time. -/
  | timeout
  | noConnection
  /-- A request that failed otherwise, in the given words. -/
  | failed (message : String)
  /-- An answer that is not understood, in the given words. -/
  | garbled (message : String)

/-! ## Failures -/

/-- Why a document is not loaded. -/
inductive LoadFailure where
  /-- Neither a file nor an address is given. -/
  | noSource
  /-- Both a file and an address are given. -/
  | twoSources
  /-- Standard input is asked for beside a file or an address. -/
  | stdinCombined
  /-- There is no such file. -/
  | missing (path : Path)
  /-- The file is no JSON text, in the given words. -/
  | malformedFile (path : Path) (message : String)
  /-- The file is not read. -/
  | unreadableFile (path : Path) (error : FileError)
  /-- Standard input is no JSON text, in the given words. -/
  | malformedInput (message : String)
  /-- The address names no document. -/
  | invalidUrl (url : String)
  /-- The address did not answer in time. -/
  | timeout (url : String)
  /-- The address was not reached. -/
  | noConnection (url : String)
  /-- The address answered with a status that is a failure. -/
  | status (url : String) (code : Nat)
  /-- The request failed otherwise, in the given words. -/
  | request (url message : String)
  /-- The answer is not understood, in the given words. -/
  | garbled (url message : String)
  /-- The document is no object. -/
  | notObject (source : String) (kind : Kind)
  /-- The document is no data model and holds none. -/
  | noDatamodel (source : String)
  /-- Nothing can be found out about the file. -/
  | inaccessible (error : FileError)
  /-- The octets of the file are no text. -/
  | undecodable
  /-- The text of the document exceeds a limit. -/
  | overLimit (limit : Json.Limit)
  /-- The authority of the address cannot be read. -/
  | unreadableUrl

/-- The wording of a failure. -/
def LoadFailure.message : LoadFailure → String
  | noSource => "Either file_path or url must be provided"
  | twoSources => "Cannot specify both file_path and url"
  | stdinCombined => "Cannot combine --stdin with a file or URL"
  | missing path => "File not found: " ++ path.text
  | malformedFile path message => "Invalid JSON in file " ++ path.text ++ ": " ++ message
  | unreadableFile path error => "Error reading file " ++ path.text ++ ": " ++ error.message
  | malformedInput message => "Invalid JSON on standard input: " ++ message
  | invalidUrl url => "Invalid URL: " ++ url
  | timeout url => "Request timeout for URL: " ++ url
  | noConnection url => "Connection error for URL: " ++ url
  | status url code => "HTTP error " ++ toString code ++ " for URL: " ++ url
  | request url message => "Request error for URL " ++ url ++ ": " ++ message
  | garbled url message => "Invalid JSON response from URL " ++ url ++ ": " ++ message
  | notObject source kind => "Expected a JSON object in " ++ source ++ ", got " ++ kind.word
  | noDatamodel source => "No datamodel found in " ++ source
  | inaccessible error => error.message
  | undecodable => "invalid UTF-8"
  | overLimit limit => limit.message
  | unreadableUrl => "Invalid IPv6 URL"

/-! ## Loading -/

/-- A value with the description of where it comes from. -/
structure Loaded where
  /-- Where it comes from. -/
  source : String
  data : Value

/-- What loading can reach: files seen from a directory, standard input, and addresses. What JSON
texts may hold depends on where they are read. -/
structure Surroundings where
  /-- The files. -/
  tree : FileTree
  directory : Place
  /-- The text of standard input. -/
  input : String
  /-- What an address answers. -/
  reply : String → Reply
  /-- The characters that stand for halves of pairs in texts. -/
  halves : Text.Halves
  /-- The most lists and objects that may lie inside each other in a configuration. -/
  configDepth : Nat
  /-- The most lists and objects that may lie inside each other in the file of a document. -/
  fileDepth : Nat
  /-- The most lists and objects that may lie inside each other in standard input. -/
  inputDepth : Nat

namespace Surroundings

/-- The reader of configurations. -/
def configReader (s : Surroundings) : Json.Reader := ⟨s.halves, s.configDepth⟩

/-- The reader of files of documents. -/
def fileReader (s : Surroundings) : Json.Reader := ⟨s.halves, s.fileDepth⟩

/-- The reader of standard input. -/
def inputReader (s : Surroundings) : Json.Reader := ⟨s.halves, s.inputDepth⟩

end Surroundings

namespace Source

/-- The value of a file. -/
def loadFile (s : Surroundings) (path : Path) : Except LoadFailure Loaded :=
  match s.tree.pathExists s.halves s.directory path with
  | .error e => .error (.inaccessible e)
  | .ok false => .error (.missing path)
  | .ok true =>
    match s.tree.read s.directory path with
    | .error e => .error (.unreadableFile path e)
    | .ok octets =>
      match Json.ofOctets s.fileReader octets with
      | .ok v => .ok ⟨"📄 " ++ path.text, v⟩
      | .error .undecodable => .error .undecodable
      | .error (.text (.malformed message)) => .error (.malformedFile path message)
      | .error (.text (.overLimit limit)) => .error (.overLimit limit)

/-- The value of an answer. -/
def ofReply (url : String) : Reply → Except LoadFailure Loaded
  | .timeout => .error (.timeout url)
  | .noConnection => .error (.noConnection url)
  | .failed message => .error (.request url message)
  | .garbled message => .error (.garbled url message)
  | .status code => .error (.status url code)
  | .answer (.value v) => .ok ⟨"🌐 " ++ url, v⟩
  | .answer (.malformed message) => .error (.request url message)
  | .answer (.refused message) => .error (.garbled url message)
  | .answer (.deep container) => .error (.overLimit (.depth container))

/-- The value of an address. -/
def loadUrl (s : Surroundings) (url : String) : Except LoadFailure Loaded :=
  match Url.read url with
  | .unreadable => .error .unreadableUrl
  | .incomplete => .error (.invalidUrl url)
  | .complete => ofReply url (s.reply url)

/-- The value of standard input. -/
def loadInput (s : Surroundings) : Except LoadFailure Loaded :=
  match Json.ofText s.inputReader s.input.toList with
  | .ok v => .ok ⟨"📥 stdin", v⟩
  | .error (.malformed message) => .error (.malformedInput message)
  | .error (.overLimit limit) => .error (.overLimit limit)

/-- The value of a file or an address; the one that is not given is empty. -/
def load (s : Surroundings) (file url : String) : Except LoadFailure Loaded :=
  if file = "" ∧ url = "" then .error .noSource
  else if file ≠ "" ∧ url ≠ "" then .error .twoSources
  else if file ≠ "" then loadFile s (Path.ofString file)
  else loadUrl s url

/-- Whether a value is an object with models. -/
def hasModels : Value → Bool
  | .object es => Entries.has es "models"
  | _ => false

/-- A value that has to be a data model or to hold one. -/
def requireDatamodel (l : Loaded) : Except LoadFailure Loaded :=
  match l.data with
  | .object es =>
    if hasModels (Entries.getD es "datamodel" l.data) then .ok l else .error (.noDatamodel l.source)
  | v => .error (.notObject l.source v.kind)

/-- The document of a file, of an address, or of standard input. -/
def loadDocument (s : Surroundings) (file url : String) (fromInput : Bool) :
    Except LoadFailure Loaded := do
  let loaded ←
    if fromInput then
      if file ≠ "" ∨ url ≠ "" then throw .stdinCombined else loadInput s
    else load s file url
  requireDatamodel loaded

end Source

end Typewright
