import Typewright.Datamodel.Document
import Typewright.Generation
import Typewright.Json.Octets
import Typewright.Registry

/-!
# Requests

A *request* asks for the code of a target for a document, under a configuration. The target is
given by name and the configuration as a value, both looked at by the standard registry.

A document that does not match is a failed result, and so is code that cannot be made. A target
that is not found, and a configuration that is not loaded, are failures of the request itself. The
document is read before anything else.

`Request.codeOfText` is for a document given as a text, and wants code or nothing.
-/

namespace Typewright

/-- What is asked for. -/
structure Request where
  document : Value
  /-- The name or alias of the target. -/
  target : Value
  /-- The configuration. -/
  config : Value

/-- Why a request has no result. -/
inductive RequestFailure where
  /-- The target is not found, or its configuration is not loaded. -/
  | registry (failure : RegistryFailure)
  /-- A value is misused. -/
  | misuse (m : Misuse)

/-- The wording of a failure. -/
def RequestFailure.message : RequestFailure → String
  | registry failure => failure.message
  | misuse m => m.message

/-- Why a request gives no code. -/
inductive CodeFailure where
  /-- The text of the document is no value, in the given words. -/
  | malformed (message : String)
  /-- The text of the document exceeds a limit. -/
  | overLimit (limit : Json.Limit)
  /-- An option has a name that stands for something else. -/
  | reservedOption (name : String)
  /-- The request has no result. -/
  | request (failure : RequestFailure)
  | failed (result : Failed)

/-- The wording of a failure. -/
def CodeFailure.message : CodeFailure → String
  | malformed message => message
  | overLimit limit => limit.message
  | reservedOption name => "option " ++ Text.literal name ++ " is no setting"
  | request failure => failure.message
  | failed result => "Code generation failed: " ++ result.message

namespace Request

/-- A failure of the registry as one of a request. -/
def ofRegistry {α : Type} : Except RegistryFailure α → Except RequestFailure α
  | .ok a => .ok a
  | .error failure => .error (.registry failure)

/-- The result of a request, seen from a working directory. -/
def answer (reader : Json.Reader) (t : FileTree) (directory : Place) (q : Request) :
    Except RequestFailure Result :=
  match Document.read q.document with
  | .error (.misuse m) => .error (.misuse m)
  | .error fault => .ok (.error ⟨.reading, fault⟩)
  | .ok d => do
      let (target, config) ←
        ofRegistry (Registry.standard.create reader t directory q.target q.config)
      return generate target directory config d

/-- The results of several targets for one document, each under its registered name: a name that
comes again keeps its place and has its last result. -/
def answerEach (reader : Json.Reader) (t : FileTree) (directory : Place)
    (document config : Value) (done : List (String × Result)) :
    List Value → Except RequestFailure (List (String × Result))
  | [] => .ok done
  | name :: rest => do
      let key ← ofRegistry (Registry.standard.resolve name)
      let result ← answer reader t directory ⟨document, name, config⟩
      answerEach reader t directory document config (Registry.assign done key result) rest

/-- The results of the targets that a value names. -/
def answerAll (reader : Json.Reader) (t : FileTree) (directory : Place)
    (document targets config : Value) : Except RequestFailure (List (String × Result)) :=
  match targets.elements with
  | .ok names => answerEach reader t directory document config [] names
  | .error m => .error (.misuse m)

/-! ## Code for a text -/

/-- The names that no option may have, since they say what is asked for. -/
def reserved : List String := ["dmmf", "target"]

/-- A document that may be given as a text. -/
def parsed (reader : Json.Reader) (document : Value) : Except CodeFailure Value :=
  match document with
  | .str s =>
    match Json.ofText reader s.toList with
    | .ok v => .ok v
    | .error (.malformed message) => .error (.malformed message)
    | .error (.overLimit limit) => .error (.overLimit limit)
  | v => .ok v

/-- The code of a target for a document, which may be a text, under some options. The text and the
files of configurations have readers of their own. -/
def codeOfText (textReader fileReader : Json.Reader) (t : FileTree) (directory : Place)
    (document target : Value) (options : Entries) : Except CodeFailure String :=
  match options.find? fun e => reserved.contains e.1 with
  | some e => .error (.reservedOption e.1)
  | none => do
      let v ← parsed textReader document
      match answer fileReader t directory ⟨v, target, .object options⟩ with
      | .error failure => throw (.request failure)
      | .ok (.error result) => throw (.failed result)
      | .ok (.ok generated) => return generated.code

end Request

end Typewright
