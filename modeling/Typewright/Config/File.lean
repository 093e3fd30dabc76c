import Typewright.Config.Layers
import Typewright.Config.Saved
import Typewright.FileTree
import Typewright.Json.Octets

/-!
# Configuration files

A configuration file is a JSON object in a file with the suffix of JSON. `Config.load` puts it
below the entries given for one run, and `Config.save` writes a configuration to such a file.
-/

namespace Typewright

/-- Why a configuration is not loaded or saved. -/
inductive ConfigFailure where
  /-- There is no such file. -/
  | missing (path : Path)
  /-- The file has another suffix. -/
  | notJson (path : Path)
  /-- The file is no JSON text, in the given words. -/
  | malformed (path : Path) (message : String)
  /-- The file is not read. -/
  | unreadable (path : Path) (error : FileError)
  /-- The file holds no object. -/
  | notObject (path : Path)
  /-- The file is not written. -/
  | unwritable (path : Path) (error : FileError)
  /-- Nothing can be found out about the file. -/
  | inaccessible (error : FileError)
  /-- The octets of the file are no text. -/
  | undecodable
  /-- The text of the file exceeds a limit. -/
  | overLimit (limit : Json.Limit)
  /-- A value is misused. -/
  | misuse (m : Misuse)

/-- The wording of a failure. -/
def ConfigFailure.message : ConfigFailure → String
  | missing path => "Configuration file not found: " ++ path.text
  | notJson path => "Configuration file must be JSON: " ++ path.text
  | malformed path message =>
      "Invalid JSON in configuration file " ++ path.text ++ ": " ++ message
  | unreadable path error =>
      "Failed to load configuration file " ++ path.text ++ ": " ++ error.message
  | notObject path => "Configuration file must contain a JSON object: " ++ path.text
  | unwritable path error =>
      "Failed to save configuration to " ++ path.text ++ ": " ++ error.message
  | inaccessible error => error.message
  | undecodable => "invalid UTF-8"
  | overLimit limit => limit.message
  | misuse m => m.message

namespace Config

/-- The entries of a configuration file. -/
def readFile (reader : Json.Reader) (t : FileTree) (directory : Place) (path : Path) :
    Except ConfigFailure Entries :=
  match t.pathExists reader.halves directory path with
  | .error e => .error (.inaccessible e)
  | .ok false => .error (.missing path)
  | .ok true =>
    if Text.lower path.suffix ≠ ".json" then .error (.notJson path)
    else
      match t.read directory path with
      | .error e => .error (.unreadable path e)
      | .ok octets =>
        match Json.ofOctets reader octets with
        | .ok (.object es) => .ok es
        | .ok _ => .error (.notObject path)
        | .error .undecodable => .error .undecodable
        | .error (.text (.malformed message)) => .error (.malformed path message)
        | .error (.text (.overLimit limit)) => .error (.overLimit limit)

/-- A misuse as the failure of a configuration. -/
def ofMisuse {α : Type} : Except Misuse α → Except ConfigFailure α
  | .ok a => .ok a
  | .error m => .error (.misuse m)

/-- The configuration made of a file, if one is named, and the entries given for one run. -/
def load (reader : Json.Reader) (t : FileTree) (directory : Place) (file : String)
    (given : Value) : Except ConfigFailure Config := do
  let below ← if file = "" then pure [] else readFile reader t directory (Path.ofString file)
  ofMisuse (ofLayers below given)

/-- A tree with a configuration saved in a file. The file is there before its text is encoded. -/
def save (h : Text.Halves) (t : FileTree) (directory : Place) (file : String) (c : Config) :
    Except ConfigFailure FileTree := do
  let path := Path.ofString file
  let object := objectOf (← ofMisuse c.savedTable)
  match path.misuse? h with
  | some m => throw (.misuse m)
  | none =>
    match t.write directory path (Text.encode (Json.indented object)) with
    | .ok saved => if Json.encodes h object then return saved else throw (.misuse .unencodable)
    | .error e => throw (.unwritable path e)

end Config

end Typewright
