import Typewright.Json.Reader
import Typewright.Text.Utf8

/-!
# JSON texts from files

The octets of a file are a JSON text in UTF-8, in which every way to end a line is a line feed.
-/

namespace Typewright.Json

/-- Why a text is no value. -/
inductive Refusal where
  /-- The text is malformed, in the given words. -/
  | malformed (message : String)
  /-- The text exceeds a limit. -/
  | overLimit (limit : Limit)
  deriving DecidableEq, Repr

/-- Why octets are no value. -/
inductive OctetRefusal where
  /-- The octets are no text. -/
  | undecodable
  /-- Their text is no value. -/
  | text (refusal : Refusal)
  deriving DecidableEq, Repr

/-- The value of a text. -/
def ofText (r : Reader) (cs : List Char) : Except Refusal Value :=
  match parseChars r cs with
  | .ok v => .ok v
  | .error (.malformed p n) => .error (.malformed ((Failure.malformed p n).message cs))
  | .error (.overLimit limit) => .error (.overLimit limit)

/-- The value of the octets of a file. -/
def ofOctets (r : Reader) (bs : List UInt8) : Except OctetRefusal Value :=
  match Text.decode? bs with
  | none => .error .undecodable
  | some cs =>
    match ofText r (Text.unifyLineEnds cs) with
    | .ok v => .ok v
    | .error refusal => .error (.text refusal)

end Typewright.Json
