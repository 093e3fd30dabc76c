import Typewright.Misuse

/-!
# The order of values

Texts are ordered by code points, and numbers by size, truth values counting as zero and one. NaN
lies neither below nor above any number. A number and a text have no order between them, and values
of the other kinds have none at all.

`Value.ascending` puts values in order if every comparison it makes has an answer. Of values that
have no order, the comparison that is made first is the misuse: first those of neighbours, as long
as the values go on upward or downward, then those that bisect the values put in order so far.
-/

namespace Typewright

/-! ## Sizes -/

/-- The size of a number, on the line of numbers with a lowest and a highest point. -/
inductive Size where
  /-- Below every number. -/
  | lowest
  /-- A quotient with a positive denominator. -/
  | quotient (num : Int) (den : Nat)
  /-- Above every number. -/
  | highest

/-- Whether a size lies below another. -/
def Size.below : Size → Size → Bool
  | lowest, lowest => false
  | lowest, _ => true
  | quotient _ _, lowest => false
  | quotient a b, quotient c d => decide (a * d < c * b)
  | quotient _ _, highest => true
  | highest, _ => false

/-- The size of a double, unless it is no number. -/
def Double.size? (d : Double) : Option Size :=
  if d.isNaN then none
  else if d.isInfinite then some (if d.isNegative then .lowest else .highest)
  else
    let (num, den) := d.ratio
    some (.quotient (if d.isNegative then -(num : Int) else num) den)

namespace Value

/-! ## Comparing two values -/

/-- Whether a value is a number or a truth value. -/
def isNumber : Value → Bool
  | bool _ | int _ | double _ => true
  | _ => false

/-- The size of a number. -/
def size? : Value → Option Size
  | bool b => some (.quotient b.toNat 1)
  | int n => some (.quotient n 1)
  | double d => d.size?
  | _ => none

/-- Whether a value lies below another. -/
def precedes (v w : Value) : Except Misuse Bool :=
  match v, w with
  | str s, str t => .ok (decide (s < t))
  | v, w =>
    if v.isNumber && w.isNumber then
      .ok (match v.size?, w.size? with
        | some a, some b => a.below b
        | _, _ => false)
    else .error (.notOrdered v.kind w.kind)

/-! ## Putting values in order -/

/-- The values that go on downward, or else do not, after a value, and those that follow them. -/
def runAfter (down : Bool) (last : Value) :
    List Value → Except Misuse (List Value × List Value)
  | [] => .ok ([], [])
  | v :: rest => do
      if (← v.precedes last) = down then
        let (more, after) ← runAfter down v rest
        return (v :: more, after)
      else return ([], v :: rest)

/-- The values at the start that are in order, upward or strictly downward, put upward, and those
that follow them. -/
def firstRun : List Value → Except Misuse (List Value × List Value)
  | v :: w :: rest => do
      let down ← w.precedes v
      let (more, after) ← runAfter down w rest
      let run := v :: w :: more
      return (if down then run.reverse else run, after)
  | vs => .ok (vs, [])

/-- The place of a value between two places of values in order, after those that are equal. -/
def bisect (v : Value) (vs : List Value) (low high : Nat) : Except Misuse Nat :=
  if low < high then
    let middle := low + (high - low) / 2
    match vs[middle]? with
    | none => .ok low
    | some w => do
        if ← v.precedes w then bisect v vs low middle else bisect v vs (middle + 1) high
  else .ok low
termination_by high - low

/-- A value put in its place among values in order. -/
def insertInOrder (vs : List Value) (v : Value) : Except Misuse (List Value) := do
  let place ← bisect v vs 0 vs.length
  return vs.take place ++ v :: vs.drop place

/-- Values in ascending order. -/
def ascending (vs : List Value) : Except Misuse (List Value) := do
  let (run, after) ← firstRun vs
  after.foldlM insertInOrder run

end Value

end Typewright
