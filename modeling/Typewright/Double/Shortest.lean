import Typewright.Double

/-!
# The shortest decimal of a double

The text of a double has the fewest digits that read back as that double, and of several such digit
strings the one nearest to its value.

On the grid of `n`-digit decimals only the two neighbours of the value matter: if any point of the
grid rounds to the double then one of these does. `Decimal.shortest` takes the first grid, from one
digit on, with a neighbour that reads back. Seventeen digits always do.

`Double.display` writes the digits positionally when the point falls between four places before the
first digit and sixteen after it, and with an exponent of at least two digits otherwise.
-/

namespace Typewright

/-- A decimal `0.d₁d₂…dₙ · 10 ^ point`, given by the number `d₁d₂…dₙ` and its count of digits. -/
structure Decimal where
  /-- The digits, read as one number. -/
  digits : Nat
  /-- How many digits there are, counting leading ones only. -/
  count : Nat
  /-- How many places the point stands after the first digit's left edge. -/
  point : Int

namespace Decimal

/-- The number of decimal digits of a natural number. -/
def width (n : Nat) : Nat := (Nat.toDigits 10 n).length

/-- The `point` with `10 ^ (point - 1) ≤ num / den < 10 ^ point`, for a positive quotient. -/
def pointOf (num den : Nat) : Int :=
  if num ≥ den then width (num / den) else 1 - (width ((den - 1) / num) : Int)

/-- A quotient times a power of ten, as a quotient. -/
def shifted (num den : Nat) (places : Int) : Nat × Nat :=
  if places ≥ 0 then (num * Double.tenTo places.toNat, den)
  else (num, den * Double.tenTo (-places).toNat)

/-- The neighbour on the grid of `n`-digit decimals that reads back as `d`, the nearer one if both
do, and of two equally near ones the even one. -/
def onGrid (d : Double) (num den : Nat) (point : Int) (n : Nat) : Option Decimal :=
  let (top, bottom) := shifted num den (n - point)
  let low := top / bottom
  let readsBack (c : Nat) : Bool := Double.ofDecimal d.isNegative c (point - n) == d
  let twice := 2 * (top % bottom)
  let lowFirst := twice < bottom || (twice == bottom && low % 2 == 0)
  let (near, far) := if lowFirst then (low, low + 1) else (low + 1, low)
  if readsBack near then some ⟨near, n, point⟩
  else if readsBack far then some ⟨far, n, point⟩
  else none

/-- The shortest decimal of a positive or negative finite double other than zero. -/
def shortest (d : Double) : Decimal :=
  let (num, den) := d.ratio
  let point := pointOf num den
  ((List.range 17).findSome? fun i => onGrid d num den point (i + 1)).getD
    ⟨(shifted num den (17 - point)).1 / (shifted num den (17 - point)).2, 17, point⟩

/-- The digits of a decimal as characters, without zeros at the end, and its point. -/
def normal (d : Decimal) : List Char × Int :=
  let cs := Nat.toDigits 10 d.digits
  let shown := (cs.reverse.dropWhile (· == '0')).reverse
  (shown, d.point + cs.length - d.count)

end Decimal

namespace Double

/-- The exponent of a decimal with one digit before its point: a sign and at least two digits. -/
def exponentText (e : Int) : String :=
  let size := toString e.natAbs
  (if e < 0 then "e-" else "e+") ++ (if size.length < 2 then "0" ++ size else size)

/-- Digits with a point, or with an exponent when the point lies too far from them. -/
def positional (digits : List Char) (point : Int) : String :=
  if point ≤ -4 ∨ point > 16 then
    let mantissa := match digits with
      | [] => "0"
      | [c] => String.ofList [c]
      | c :: rest => String.ofList (c :: '.' :: rest)
    mantissa ++ exponentText (point - 1)
  else if point ≤ 0 then
    "0." ++ String.ofList (List.replicate (-point).toNat '0' ++ digits)
  else if digits.length ≤ point.toNat then
    String.ofList (digits ++ List.replicate (point.toNat - digits.length) '0') ++ ".0"
  else
    String.ofList (digits.take point.toNat ++ '.' :: digits.drop point.toNat)

/-- The size of a finite double as text. -/
def sizeText (d : Double) : String :=
  if d.isZero then "0.0"
  else
    let (digits, point) := (Decimal.shortest d).normal
    positional digits point

/-- The text of a finite double: a minus sign if the sign bit is set, and its size. -/
def finiteText (d : Double) : String :=
  (if d.isNegative then "-" else "") ++ d.sizeText

/-- The text of a double: `inf`, `-inf` and `nan` name what is not finite. -/
def display (d : Double) : String :=
  if d.isNaN then "nan"
  else if d.isInfinite then (if d.isNegative then "-inf" else "inf")
  else d.finiteText

end Double

end Typewright
