import Typewright.Misuse

/-!
# The log

Whoever logs has a name, which lies in the space of names of the package: a name that does not start
with that of the package is put below it.

A level is a number, or the name of one in any letter case. A name that is not known stands for the
level of warnings.
-/

namespace Typewright.Log

/-- The name of the package, under which all others lie. -/
def rootName : String := "schema_typegen"

/-- The name under which something is logged. -/
def underRoot (name : String) : String :=
  if rootName.toList.isPrefixOf name.toList then name else rootName ++ "." ++ name

/-- The name under which a value is logged, which has to be a text. -/
def loggerName (v : Value) : Except Misuse String := do
  return underRoot (← v.withOperation "startswith")

/-! ## Levels -/

/-- The levels that have names. -/
def levels : List (String × Nat) :=
  [("CRITICAL", 50), ("FATAL", 50), ("ERROR", 40), ("WARN", 30), ("WARNING", 30), ("INFO", 20),
    ("DEBUG", 10), ("NOTSET", 0)]

/-- The level of warnings. -/
def warningLevel : Nat := 30

/-- A letter as a capital of ASCII, if it has one: two letters beyond ASCII do. -/
def capital (c : Char) : Char :=
  if c = 'ı' then 'I' else if c = 'ſ' then 'S' else c.toUpper

/-- The level of a name. -/
def namedLevel (name : String) : Nat :=
  (levels.lookup (String.ofList (name.toList.map capital))).getD warningLevel

/-- The level of a value: a number or a truth value is one itself. -/
def level (v : Value) : Except Misuse Value :=
  match v with
  | .str name => .ok (.int (namedLevel name))
  | .int n => .ok (.int n)
  | .bool b => .ok (.bool b)
  | v => .error (.notLevel v.kind)

end Typewright.Log
