import Typewright.Value

/-!
# Equal values

Two values are the *same* when they are equal as data: a number equals every number of the same
size, truth values count as zero and one, and objects are compared without regard to order. NaN is
the same as nothing when compared directly; inside a list or an object it equals itself.

`Value.key?` gives the values that can name something a canonical form, the *key*, so that equal
names have equal keys. Lists and objects have no key.
-/

namespace Typewright

/-- The canonical form of a value that names something. -/
inductive Key where
  | null
  /-- The key of an integer, and of every number equal to it. -/
  | int (n : Int)
  /-- The key of a double that is no integer. -/
  | double (d : Double)
  /-- The key of a text. -/
  | str (s : String)
  deriving DecidableEq, Repr

namespace Value

/-- The key of a number. -/
def numberKey (d : Double) : Key :=
  match d.toInt? with
  | some n => .int n
  | none => if d.isNaN then .double Double.nan else .double d

/-- The key of a value, unless it is a list or an object. -/
def key? : Value → Option Key
  | null => some .null
  | bool b => some (.int (if b then 1 else 0))
  | int n => some (.int n)
  | double d => some (numberKey d)
  | str s => some (.str s)
  | list _ => none
  | object _ => none

mutual

/-- Whether two values inside lists or objects are the same. -/
def agrees : Value → Value → Bool
  | list xs, list ys => agreeAll xs ys
  | object es, object fs => es.length == fs.length && entriesAgree es fs
  | v, w =>
      match v.key?, w.key? with
      | some a, some b => a == b
      | _, _ => false

/-- Whether two lists have the same items. -/
def agreeAll : List Value → List Value → Bool
  | [], [] => true
  | v :: vs, w :: ws => agrees v w && agreeAll vs ws
  | _, _ => false

/-- Whether every entry is found, with the same value, among other entries. -/
def entriesAgree : List (String × Value) → List (String × Value) → Bool
  | [], _ => true
  | (name, v) :: rest, fs =>
      (match Entries.get? fs name with
        | some w => agrees v w
        | none => false) && entriesAgree rest fs

end

/-- Whether a value is the number that is no number. -/
def isNaN : Value → Bool
  | double d => d.isNaN
  | _ => false

/-- Whether two values are the same. -/
def same (v w : Value) : Bool := !v.isNaN && !w.isNaN && agrees v w

@[simp] theorem key?_str (s : String) : (str s).key? = some (.str s) := rfl

/-- A text is the only value with its key. -/
theorem key?_eq_str_iff {v : Value} {s : String} : v.key? = (str s).key? ↔ v = str s := by
  constructor
  · intro h
    cases v with
    | double d =>
      simp only [key?, numberKey, Option.some.injEq] at h
      split at h
      · simp at h
      · split at h <;> simp at h
    | str t => simpa using h
    | _ => simp [key?] at h
  · rintro rfl
    rfl

@[simp] theorem same_str (s t : String) : (str s).same (str t) = (s == t) := by
  have : (Key.str s == Key.str t) = (s == t) := by
    rw [Bool.eq_iff_iff]; simp
  simp [same, isNaN, agrees, key?, this]

/-- Only a text is the same as a text. -/
theorem str_same_iff {s : String} {v : Value} : (str s).same v = true ↔ v = str s := by
  constructor
  · intro h
    rw [← key?_eq_str_iff, key?_str]
    have h' : agrees (str s) v = true := (Bool.and_eq_true_iff.1 h).2
    rw [agrees, key?_str] at h'
    · cases hk : v.key? with
      | none => simp [hk] at h'
      | some k =>
        simp only [hk, beq_iff_eq] at h'
        rw [h']
    · intros
      contradiction
    · intros
      contradiction
  · rintro rfl
    simp

end Value

end Typewright
