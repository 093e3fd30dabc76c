/-!
# Doubles

A *double* is a binary floating-point number of 64 bits, held as its bit pattern. The value of a
finite pattern is `m · 2 ^ q` up to sign (`Double.parts`), and `Double.ofRatio` rounds a quotient of
natural numbers to the nearest double, a tie going to the even pattern.

The encoding makes rounding one formula: the pattern of `m · 2 ^ q` is `(q + 1074) · 2 ^ 52 + m`.
It holds for subnormal numbers, for normal ones (the leading bit of `m` adds one to the exponent
field) and when rounding carries into the next power of two.

All arithmetic is exact arithmetic of natural numbers, so closed tests run in the kernel.
-/

namespace Typewright

/-- A double, given by its bit pattern. -/
structure Double where
  /-- The pattern: a sign bit, eleven exponent bits and fifty-two fraction bits. -/
  bits : Nat
  deriving DecidableEq, Repr

namespace Double

/-! ## Powers -/

/-- A power of two. -/
def twoTo (n : Nat) : Nat := Nat.pow 2 n

/-- A power of ten. -/
def tenTo (n : Nat) : Nat := Nat.pow 10 n

/-! ## Reading the pattern -/

/-- The weight of the sign bit. -/
def signBit : Nat := 0x8000000000000000

/-- The weight of the first bit above the fraction. -/
def fractionLimit : Nat := 0x10000000000000

/-- The pattern of positive infinity: the first that is no finite number. -/
def infinityBits : Nat := 0x7FF0000000000000

/-- Whether the sign bit is set. -/
def isNegative (d : Double) : Bool := d.bits ≥ signBit

/-- The pattern without its sign bit. -/
def magnitude (d : Double) : Nat := d.bits % signBit

/-- Whether the double is a number and no infinity. -/
def isFinite (d : Double) : Bool := d.magnitude < infinityBits

/-- Whether the double is an infinity. -/
def isInfinite (d : Double) : Bool := d.magnitude == infinityBits

/-- Whether the double is no number. -/
def isNaN (d : Double) : Bool := d.magnitude > infinityBits

/-- Whether the double is zero, of either sign. -/
def isZero (d : Double) : Bool := d.magnitude == 0

/-- The parts `(m, e)` of a finite double: its size is `m · 2 ^ (e - 1074)`. -/
def parts (d : Double) : Nat × Nat :=
  let field := d.magnitude / fractionLimit
  let fraction := d.magnitude % fractionLimit
  if field = 0 then (fraction, 0) else (fraction + fractionLimit, field - 1)

/-- The size of a finite double as a quotient, numerator first. -/
def ratio (d : Double) : Nat × Nat :=
  let (m, e) := d.parts
  if e ≥ 1074 then (m * twoTo (e - 1074), 1) else (m, twoTo (1074 - e))

/-! ## Making doubles -/

/-- The double with a given sign and pattern without sign. -/
def ofMagnitude (negative : Bool) (pattern : Nat) : Double :=
  ⟨if negative then signBit + pattern else pattern⟩

/-- Infinity of either sign. -/
def infinity (negative : Bool) : Double := ofMagnitude negative infinityBits

/-- The double that is no number. -/
def nan : Double := ⟨0x7FF8000000000000⟩

/-- The quotient rounded to the nearest natural number, a tie going to the even one. -/
def roundQuotient (num den : Nat) : Nat :=
  let floor := num / den
  let twice := 2 * (num % den)
  if twice < den then floor
  else if twice > den then floor + 1
  else if floor % 2 = 0 then floor else floor + 1

/-- The greatest `e` with `2 ^ (e - 1074) ≤ num / den`, or zero when the quotient is smaller. -/
def scale (num den : Nat) : Nat :=
  let guess := 1074 + num.log2 - den.log2
  if num * twoTo 1074 < den * twoTo guess then guess - 1 else guess

/-- The double nearest to a quotient. -/
def ofRatio (negative : Bool) (num den : Nat) : Double :=
  let e := scale num den - 52
  let m := roundQuotient (num * twoTo 1074) (den * twoTo e)
  ofMagnitude negative (min infinityBits (e * fractionLimit + m))

/-- The double nearest to `digits · 10 ^ exponent`. The quotient is left alone when the exponent
puts it beyond every finite double or below half of the smallest, whatever its size. -/
def ofDecimal (negative : Bool) (digits : Nat) (exponent : Int) : Double :=
  let places : Int := (Nat.toDigits 10 digits).length
  if digits = 0 || places + exponent < -400 then ofMagnitude negative 0
  else if places + exponent > 400 then infinity negative
  else if exponent ≥ 0 then ofRatio negative (digits * tenTo exponent.toNat) 1
  else ofRatio negative digits (tenTo (-exponent).toNat)

/-- The integer a double is, if it is one. -/
def toInt? (d : Double) : Option Int :=
  if d.isFinite then
    let (num, den) := d.ratio
    if num % den = 0 then
      some (if d.isNegative then -(num / den : Nat) else (num / den : Nat))
    else none
  else none

end Double

end Typewright
