import Typewright.Double

/-!
# Values

A *value* is what a document, a configuration or a command carries: null, a truth value, an integer
of any size, a double, a text, a list, or an object. The entries of an object are in the order in
which their names were first given, one for each name.

Names, flags and options of a document are kept as the values they are. Where a rule asks for a
flag, `Value.truthy` decides; where it asks for the kind of a value, `Value.kind` tells.
-/

namespace Typewright

/-- A value of a document. -/
inductive Value where
  | null
  /-- A truth value. -/
  | bool (b : Bool)
  /-- An integer. -/
  | int (n : Int)
  | double (d : Double)
  /-- A text. -/
  | str (s : String)
  /-- A list of values. -/
  | list (items : List Value)
  /-- Named values, in order. -/
  | object (entries : List (String × Value))
  deriving Repr

/-- The kinds of values. -/
inductive Kind where
  | null
  /-- The kind of truth values. -/
  | bool
  /-- The kind of integers. -/
  | int
  /-- The kind of doubles. -/
  | double
  /-- The kind of texts. -/
  | str
  | list
  | object
  deriving DecidableEq, Repr

/-- The word for a kind in messages. -/
def Kind.word : Kind → String
  | null => "NoneType"
  | bool => "bool"
  | int => "int"
  | double => "float"
  | str => "str"
  | list => "list"
  | object => "dict"

namespace Value

/-- The kind of a value. -/
def kind : Value → Kind
  | null => .null
  | bool _ => .bool
  | int _ => .int
  | double _ => .double
  | str _ => .str
  | list _ => .list
  | object _ => .object

/-- Whether a value counts as set: null, false, zero and what is empty do not. -/
def truthy : Value → Bool
  | null => false
  | bool b => b
  | int n => n != 0
  | double d => !d.isZero
  | str s => s != ""
  | list items => !items.isEmpty
  | object entries => !entries.isEmpty

/-- The first of two values that is set, or else the second. -/
def orElse (v w : Value) : Value := if v.truthy then v else w

theorem truthy_orElse (v w : Value) : (v.orElse w).truthy = (v.truthy || w.truthy) := by
  rw [orElse]
  cases hv : v.truthy with
  | true => simp [hv]
  | false => simp

/-- The text a value is, if it is one. -/
def str? : Value → Option String
  | str s => some s
  | _ => none

/-- Whether a value is exactly a given text. -/
def isStr (v : Value) (s : String) : Bool := v.str? == some s

theorem isStr_iff {v : Value} {s : String} : v.isStr s = true ↔ v = str s := by
  cases v <;> simp [isStr, str?]

/-- What is found by its text is found under that text. -/
theorem eq_str_of_find? {α : Type} {text : α → String} {v : Value} {l : List α} {a : α}
    (h : (l.find? fun a => v.isStr (text a)) = some a) : v = str (text a) :=
  isStr_iff.1 (@List.find?_some α (fun a => v.isStr (text a)) a l h)

/-- The texts of one character each that make up a text. -/
def charsOf (s : String) : List Value := s.toList.map fun c => str (String.singleton c)

/-- What going through a value meets: the items of a list, the names of an object, the characters of
a text. The other kinds cannot be gone through. -/
def elements? : Value → Option (List Value)
  | list items => some items
  | object entries => some (entries.map fun e => str e.1)
  | str s => some (charsOf s)
  | _ => none

end Value

/-! ## Entries of objects -/

/-- The entries of an object. -/
abbrev Entries := List (String × Value)

namespace Entries

/-- The value under a name. -/
def get? (es : Entries) (name : String) : Option Value := List.lookup name es

/-- Whether a name is given. -/
def has (es : Entries) (name : String) : Bool := es.any (·.1 == name)

/-- A name given a value: it keeps its place if it has one and goes to the end otherwise. -/
def put (es : Entries) (name : String) (v : Value) : Entries :=
  match es with
  | [] => [(name, v)]
  | e :: rest => if e.1 = name then (e.1, v) :: rest else e :: put rest name v

/-- Entries given one after the other. -/
def putAll (es : Entries) (new : Entries) : Entries := new.foldl (fun acc e => acc.put e.1 e.2) es

/-- The value under a name, or a default. -/
def getD (es : Entries) (name : String) (fallback : Value) : Value := (es.get? name).getD fallback

@[simp] theorem get?_nil (name : String) : get? [] name = none := rfl

theorem get?_cons (e : String × Value) (es : Entries) (name : String) :
    get? (e :: es) name = if name = e.1 then some e.2 else get? es name := by
  obtain ⟨k, v⟩ := e
  by_cases h : name = k
  · simp [get?, h]
  · have : (name == k) = false := by simp [h]
    simp [get?, List.lookup_cons, this, h]

/-- What is put under a name is found under it, and nothing else changes. -/
theorem get?_put (es : Entries) (name : String) (v : Value) (other : String) :
    (es.put name v).get? other = if other = name then some v else es.get? other := by
  induction es with
  | nil => simp [put, get?_cons]
  | cons e rest ih =>
    unfold put
    by_cases h : e.1 = name
    · simp only [if_pos h, get?_cons]
      by_cases ho : other = name
      · simp [ho, h]
      · simp [ho, h]
    · simp only [if_neg h, get?_cons, ih]
      by_cases ho : other = e.1
      · have : other ≠ name := fun x => h (ho ▸ x)
        simp [ho, h]
      · simp [ho]

/-- A new name goes to the end, a known one keeps its place. -/
theorem map_fst_put (es : Entries) (name : String) (v : Value) :
    (es.put name v).map Prod.fst =
      if name ∈ es.map Prod.fst then es.map Prod.fst else es.map Prod.fst ++ [name] := by
  induction es with
  | nil => simp [put]
  | cons e rest ih =>
    unfold put
    by_cases h : e.1 = name
    · simp [h]
    · have h' : name ≠ e.1 := fun x => h x.symm
      simp only [if_neg h, List.map_cons, ih, List.mem_cons, h', false_or]
      split <;> simp

end Entries

end Typewright
