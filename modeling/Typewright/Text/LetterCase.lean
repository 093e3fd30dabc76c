import Typewright.Text.CaseTables

/-!
# Lower case

`Text.lower` writes a text in small letters. Every character goes to its own small letter, with
two exceptions: the dotted capital I gives an `i` and a combining dot, and a capital sigma that
ends a word gives the final sigma. A sigma ends a word when the nearest letter before it has case
and the nearest after it, if any, has none, marks being skipped on both sides.
-/

namespace Typewright.Text

/-- The capital sigma. -/
def capitalSigma : Char := 'Σ'

/-- Whether the first character that is no mark has case. -/
def casedNext (cs : List Char) : Bool :=
  match cs.dropWhile caseIgnorable.contains with
  | [] => false
  | c :: _ => cased.contains c

/-- The small letter of a run of capitals, if the code point is in it. -/
def CaseRun.small? (r : CaseRun) (n : Nat) : Option Nat :=
  if r.first ≤ n ∧ n ≤ r.last ∧ (n - r.first) % r.step = 0 then some (r.small + (n - r.first))
  else none

/-- The small letters of a character that stands alone. -/
def lowerChar (c : Char) : List Char :=
  if c.toNat < 0x80 then [c.toLower]
  else if c = 'İ' then ['i', '\u0307']
  else match caseRuns.findSome? (·.small? c.toNat) with
    | some n => [Char.ofNat n]
    | none => [c]

/-- The small letters of a text, given the characters before it, nearest first. -/
def lowerAfter (before : List Char) : List Char → List Char
  | [] => []
  | c :: rest =>
      (if c = capitalSigma then
        [if casedNext before && !casedNext rest then 'ς' else 'σ']
      else lowerChar c) ++ lowerAfter (c :: before) rest

/-- A text in small letters. -/
def lower (s : String) : String := String.ofList (lowerAfter [] s.toList)

end Typewright.Text
