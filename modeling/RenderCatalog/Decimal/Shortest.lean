import RenderCatalog.Decimal.Binary64

/-!
# Shortest decimals

The decimal that stands for a floating-point number is the one with the fewest digits among those nearer to it than to
any other number of the format, and of these the nearest. For each count of digits only the two grid points around the
value have to be tried, because any other grid point in the interval would have one of them between itself and the value.
-/

namespace RenderCatalog.Decimal

/-- A decimal `d₁.d₂d₃… · 10 ^ exponent`, its digits from the leading one on. -/
structure Digits where
  digits : List Char
  exponent : Int
  deriving Repr, DecidableEq

/-- How many decimal digits a natural takes; zero takes none. -/
def digitCount (n : Nat) : Nat := if n = 0 then 0 else (Nat.toDigits 10 n).length

/-- The decimal exponent of the leading digit of a positive quotient. -/
def leadingDigit (num den : Nat) : Int :=
  if den ≤ num then (digitCount (num / den) : Int) - 1
  else -(digitCount ((den + num - 1) / num - 1) : Int)

/-- Multiplication by a power of ten, as numerator and denominator of a quotient. -/
def shiftDecimal (num den : Nat) (power : Int) : Nat × Nat :=
  if 0 ≤ power then (num * Nat.pow 10 power.toNat, den) else (num, den * Nat.pow 10 (-power).toNat)

/-- Half the gap to the neighbour below, in quarters of the last place: it shrinks where the exponent changes. -/
def gapBelow (x : Binary64) : Nat := if x.mant = Nat.pow 2 52 && x.exp != leastExp then 1 else 2

/-- The quotient lies among the numbers that round to `x`; the ends of that interval belong to it when the mantissa is
even. -/
def roundsTo (x : Binary64) (num den : Nat) : Bool :=
  let (low, d) := shiftRatio (4 * x.mant - gapBelow x) 4 x.exp
  let (high, _) := shiftRatio (4 * x.mant + 2) 4 x.exp
  if x.mant % 2 = 0 then low * den ≤ num * d && num * d ≤ high * den
  else low * den < num * d && num * d < high * den

/-- The grid point with `count` digits that stands for `x`, as a multiple of `10 ^ unit`. -/
def gridPoint? (x : Binary64) (unit : Int) : Option Nat :=
  let (vn, vd) := x.toRatio
  let (n, d) := shiftDecimal vn vd (-unit)
  let below := n / d
  let fits (k : Nat) : Bool :=
    let (kn, kd) := shiftDecimal k 1 unit
    roundsTo x kn kd
  let nearer := roundDiv n d
  let other := if nearer = below then below + 1 else below
  if fits nearer then some nearer else if fits other then some other else none

/-- Tries the counts from `count` on, `tries` of them. -/
def shortestFrom (x : Binary64) (lead : Int) : Nat → Nat → Nat × Int
  | 0, count => (x.mant, lead - count)
  | tries + 1, count =>
    let unit := lead - (count - 1 : Nat)
    match gridPoint? x unit with
    | some k => (k, unit)
    | none => shortestFrom x lead tries (count + 1)

/-- The shortest decimal of a number's magnitude; seventeen digits always suffice. -/
def shortest (x : Binary64) : Digits :=
  if x.mant = 0 then ⟨['0'], 0⟩
  else
    let (vn, vd) := x.toRatio
    let (k, unit) := shortestFrom x (leadingDigit vn vd) 17 1
    let all := Nat.toDigits 10 k
    let kept := (all.reverse.dropWhile (· == '0')).reverse
    ⟨kept, unit + (all.length - 1 : Nat)⟩

end RenderCatalog.Decimal
