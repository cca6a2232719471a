/-!
# Binary floating point with 64 bits

A finite number of the format is `mant · 2 ^ exp` with a sign. Rounding is to the nearest such number, an exact half
going to the even mantissa, and it is defined once, on quotients of naturals; reading decimals and scaling by powers of
ten all go through it. Comparison goes through `units`, the exact value as a count of the smallest positive number,
so that order on numbers is order on integers.
-/

namespace RenderCatalog.Decimal

/-- A finite number: `mant · 2 ^ exp`, negated when `negative`; the mantissa takes at most 53 bits and the exponent is at
least -1074, and among the spellings of one number the one with the largest mantissa is meant. -/
structure Binary64 where
  negative : Bool
  mant : Nat
  exp : Int
  deriving Repr, DecidableEq

/-- The exponent of the smallest positive number. -/
def leastExp : Int := -1074

/-- The largest exponent of a finite number. -/
def greatestExp : Int := 971

namespace Binary64

/-- Zero, the positive one. -/
def zero : Binary64 := ⟨false, 0, leastExp⟩

/-- The exact value, counted in the smallest positive number. -/
def units (x : Binary64) : Int :=
  let size := x.mant * Nat.pow 2 (x.exp - leastExp).toNat
  if x.negative then -(size : Int) else size

/-- One number is less than another when its exact value is. -/
def lt (x y : Binary64) : Bool := x.units < y.units

/-- The number with its sign set. -/
def withSign (negative : Bool) (x : Binary64) : Binary64 := { x with negative }

end Binary64

/-- The quotient rounded to the nearest natural, an exact half to the even one. -/
def roundDiv (num den : Nat) : Nat :=
  let q := num / den
  let r := num % den
  if 2 * r < den then q else if den < 2 * r then q + 1 else q + q % 2

/-- Multiplication by a power of two, as numerator and denominator of a quotient. -/
def shiftRatio (num den : Nat) (power : Int) : Nat × Nat :=
  if 0 ≤ power then (num * Nat.pow 2 power.toNat, den) else (num, den * Nat.pow 2 (-power).toNat)

/-- The exponent of the leading bit of a positive quotient. -/
def leadingBit (num den : Nat) : Int :=
  let k : Int := (Nat.log2 num : Int) - Nat.log2 den
  let (n, d) := shiftRatio num den (-k)
  if n < d then k - 1 else k

/-- The finite number nearest to a quotient, or nothing when it is beyond the largest one. -/
def ofRatio? (num den : Nat) : Option Binary64 :=
  if num = 0 then some Binary64.zero
  else
    let e := max (leadingBit num den - 52) leastExp
    let (n, d) := shiftRatio num den (-e)
    let m := roundDiv n d
    let (m, e) := if m = Nat.pow 2 53 then (Nat.pow 2 52, e + 1) else (m, e)
    if greatestExp < e then none else some ⟨false, m, e⟩

namespace Binary64

/-- The magnitude of a number as a quotient. -/
def toRatio (x : Binary64) : Nat × Nat := shiftRatio x.mant 1 x.exp

/-- The nearest number to an integer; integers of up to 64 bits are always in range. -/
def ofInt (n : Int) : Binary64 :=
  ((ofRatio? n.natAbs 1).getD zero).withSign (n < 0)

/-- The power of ten, rounded. -/
def tenPow? (k : Nat) : Option Binary64 := ofRatio? (Nat.pow 10 k) 1

/-- The product of the magnitudes, rounded. -/
def mul? (x y : Binary64) : Option Binary64 :=
  let (a, b) := x.toRatio
  let (c, d) := y.toRatio
  ofRatio? (a * c) (b * d)

/-- The quotient of the magnitudes, rounded. -/
def div? (x y : Binary64) : Option Binary64 :=
  let (a, b) := x.toRatio
  let (c, d) := y.toRatio
  ofRatio? (a * d) (b * c)

/-- The largest power of ten that one step of scaling uses. -/
def scaleStep : Nat := 308

/-- A magnitude times a power of ten. Powers are applied in steps of at most `scaleStep` digits, each step rounded; a
number that falls to zero stays there, and one that leaves the range is refused. -/
def scale? (x : Binary64) (exponent : Int) : Option Binary64 :=
  if exponent.natAbs ≤ scaleStep then
    (tenPow? exponent.natAbs).bind fun p => if 0 ≤ exponent then x.mul? p else x.div? p
  else if x.mant = 0 then some x
  else if 0 ≤ exponent then none
  else
    ((tenPow? scaleStep).bind x.div?).bind fun y => y.scale? (exponent + scaleStep)
  termination_by exponent.natAbs
  decreasing_by simp [scaleStep] at *; omega

end Binary64

end RenderCatalog.Decimal
