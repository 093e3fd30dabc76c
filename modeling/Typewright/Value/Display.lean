import Typewright.Value
import Typewright.Double.Shortest
import Typewright.Text.Quoted

/-!
# Values as text

`Value.display` is the text of a value in generated code and messages: a text stands for itself, and
any other value is written as `Value.literal` writes it. Inside lists and objects texts are quoted.
-/

namespace Typewright.Value

mutual

/-- A value written so that its kind shows: texts in quotes, lists and objects in brackets. -/
def literal : Value → String
  | null => "None"
  | bool b => if b then "True" else "False"
  | int n => toString n
  | double d => d.display
  | str s => Text.literal s
  | list items => "[" ++ String.intercalate ", " (literals items) ++ "]"
  | object entries => "\x7b" ++ String.intercalate ", " (entryLiterals entries) ++ "\x7d"

/-- The items of a list as `literal` writes them. -/
def literals : List Value → List String
  | [] => []
  | v :: rest => literal v :: literals rest

/-- The entries of an object, name and value with a colon between. -/
def entryLiterals : List (String × Value) → List String
  | [] => []
  | (name, v) :: rest => (Text.literal name ++ ": " ++ literal v) :: entryLiterals rest

end

/-- The text of a value. -/
def display : Value → String
  | str s => s
  | v => v.literal

/-- The text of a value between double quotes. -/
def quoted (v : Value) : String := Text.doubleQuoted v.display

@[simp] theorem display_str (s : String) : (str s).display = s := rfl

end Typewright.Value
