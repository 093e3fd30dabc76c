import Typewright.Path
import Typewright.Text.Halves
import Typewright.Value.Same

/-!
# Misused values

Documents and configurations may carry a value of any kind anywhere. A *misuse* is the attempt to
do with a value what its kind or its content does not admit: to look up under a list, to go through
a number, to take the file name of a path that has none, to encode half of a pair. `Misuse.message`
words it.
-/

namespace Typewright

/-- What was done with a value that does not admit it. -/
inductive Misuse where
  /-- A list or an object was to name something. -/
  | unhashable (kind : Kind)
  /-- A value was to be gone through. -/
  | notIterable (kind : Kind)
  /-- A value was to be searched for a member. -/
  | notSearchable (kind : Kind)
  /-- A value that is no text was to be scanned as one. -/
  | notText (kind : Kind)
  /-- A value was asked for an operation of another kind. -/
  | noOperation (kind : Kind) (operation : String)
  /-- A value that is no text was to be joined with texts. -/
  | notJoinable (position : Nat) (kind : Kind)
  /-- Two values have no order. -/
  | notOrdered (left right : Kind)
  /-- A value was to be extended by a text. -/
  | notExtensible (kind : Kind)
  /-- A value that is no text was to be a path. -/
  | notPath (kind : Kind)
  /-- A value that is neither a number nor a text was to be a level of the log. -/
  | notLevel (kind : Kind)
  | noFileName (path : String)
  /-- A path holds the null character. -/
  | nullInPath
  /-- A text that was to be encoded holds half of a pair. -/
  | unencodable
  /-- An item was to be a pair and cannot be gone through. -/
  | notPair (position : Nat)
  /-- An item was to be a pair and has another length. -/
  | pairLength (position length : Nat)
  deriving DecidableEq, Repr

/-- The three classes of misuse. -/
inductive MisuseClass where
  /-- The kind of a value is wrong. -/
  | kind
  /-- The content of a value is wrong. -/
  | content
  /-- The value has no such operation. -/
  | operation
  deriving DecidableEq, Repr

namespace Misuse

/-- The class of a misuse. -/
def cls : Misuse → MisuseClass
  | noOperation _ _ => .operation
  | noFileName _ => .content
  | nullInPath => .content
  | unencodable => .content
  | pairLength _ _ => .content
  | _ => .kind

/-- The wording of a misuse. -/
def message : Misuse → String
  | unhashable k => "unhashable type: '" ++ k.word ++ "'"
  | notIterable k => "'" ++ k.word ++ "' object is not iterable"
  | notSearchable k => "argument of type '" ++ k.word ++ "' is not iterable"
  | notText k => "expected string or bytes-like object, got '" ++ k.word ++ "'"
  | noOperation k operation =>
      "'" ++ k.word ++ "' object has no attribute '" ++ operation ++ "'"
  | notJoinable position k =>
      "sequence item " ++ toString position ++ ": expected str instance, " ++ k.word ++ " found"
  | notOrdered left right =>
      "'<' not supported between instances of '" ++ left.word ++ "' and '" ++ right.word ++ "'"
  | notExtensible k =>
      "unsupported operand type(s) for +=: '" ++ k.word ++ "' and 'str'"
  | notPath k => "expected str, bytes or os.PathLike object, not " ++ k.word
  | notLevel k => "a level is an integer or a name, not " ++ k.word
  | noFileName path => "PosixPath(" ++ Text.literal path ++ ") has an empty name"
  | nullInPath => "embedded null byte"
  | unencodable => "surrogates not allowed"
  | notPair position =>
      "cannot convert dictionary update sequence element #" ++ toString position ++
        " to a sequence"
  | pairLength position length =>
      "dictionary update sequence element #" ++ toString position ++ " has length " ++
        toString length ++ "; 2 is required"

end Misuse

namespace Value

/-- The key of a value that names something. -/
def key (v : Value) : Except Misuse Key :=
  match v.key? with
  | some k => .ok k
  | none => .error (.unhashable v.kind)

/-- What going through a value meets. -/
def elements (v : Value) : Except Misuse (List Value) :=
  match v.elements? with
  | some vs => .ok vs
  | none => .error (.notIterable v.kind)

/-- A value that has to be a text to be scanned. -/
def scanned (v : Value) : Except Misuse String :=
  match v with
  | str s => .ok s
  | v => .error (.notText v.kind)

/-- A value that has to be a text because a text's operation is asked of it. -/
def withOperation (operation : String) (v : Value) : Except Misuse String :=
  match v with
  | str s => .ok s
  | v => .error (.noOperation v.kind operation)

/-- A value that has to be a path. -/
def path (v : Value) : Except Misuse String :=
  match v with
  | str s => .ok s
  | v => .error (.notPath v.kind)

@[simp] theorem key_str (s : String) : (str s).key = .ok (.str s) := rfl

theorem path_eq_ok {v : Value} {s : String} : v.path = .ok s ↔ v = str s := by
  cases v <;> simp [path]

end Value

/-- The misuse of a path that no file system takes: one with a half that stands for no octet, or
with the null character. -/
def Path.misuse? (h : Text.Halves) (p : Path) : Option Misuse :=
  if !p.parts.all h.names then some .unencodable
  else if p.holdsNull then some .nullInPath
  else none

end Typewright
