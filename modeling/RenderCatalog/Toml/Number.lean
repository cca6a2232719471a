import RenderCatalog.Decimal.Binary64
import RenderCatalog.Toml.Scalar

/-!
# The range of TOML numbers

A document may spell numbers of any size, but only some can be held: integers of at most 128 bits, with or without a sign,
and decimals that do not round to infinity. Whether a number can be held is read off its spelling; infinity itself and the
words for no number at all always can.
-/

namespace RenderCatalog.Toml

/-- The digits of a number without the underscores between them. -/
def plainDigits (cs : List Char) : List Char := cs.filter (· != '_')

/-- The number that digits of a base spell. -/
def natural (base : Nat) (cs : List Char) : Nat :=
  (plainDigits cs).foldl (fun n c => n * base + (Text.hexValue? c).getD 0) 0

/-- A spelling is negated by its sign. -/
def isNegated (cs : List Char) : Bool := cs.head? == some '-'

/-- The integer that decimal digits spell after a sign or none. -/
def signed (cs : List Char) : Int :=
  if isNegated cs then -(natural 10 (dropSign cs) : Int) else natural 10 (dropSign cs)

/-- The integer that a word spells, in any of the four bases. -/
def integerOf? (cs : List Char) : Option Int :=
  match cs with
  | '0' :: 'x' :: rest => some (natural 16 rest)
  | '0' :: 'o' :: rest => some (natural 8 rest)
  | '0' :: 'b' :: rest => some (natural 2 rest)
  | _ => if isWhole (dropSign cs) then some (signed cs) else none

/-- The least integer that can be held. -/
def leastInteger : Int := -Int.pow 2 127

/-- The greatest integer that can be held. -/
def greatestInteger : Int := Int.pow 2 128 - 1

/-- The digits of a decimal without sign and point, and the power of ten that scales them. -/
structure Scaled where
  digits : List Char
  power : Int
  deriving Repr, DecidableEq

/-- The digits and the power of ten of a decimal without sign. -/
def Scaled.ofDecimal (cs : List Char) : Scaled :=
  let mantissa := plainDigits (cs.takeWhile (!isExponentMark ·))
  let exponent := (cs.dropWhile (!isExponentMark ·)).drop 1
  let whole := mantissa.takeWhile (· != '.')
  let places := (mantissa.dropWhile (· != '.')).drop 1
  ⟨(whole ++ places).dropWhile (· == '0'), signed exponent - places.length⟩

/-- Decimals with more digits before their point than this are beyond every finite number. -/
def mostDigits : Nat := 310

/-- The decimal rounds to a finite number. The number of its digits decides, unless it is close to the limit. -/
def Scaled.isFinite (d : Scaled) : Bool :=
  let width := d.digits.length + d.power
  if d.digits.isEmpty || width < 0 then true
  else if mostDigits < width then false
  else
    let (num, den) :=
      if 0 ≤ d.power then (natural 10 d.digits * Nat.pow 10 d.power.toNat, 1)
      else (natural 10 d.digits, Nat.pow 10 (-d.power).toNat)
    (Decimal.ofRatio? num den).isSome

/-- The number that a word spells can be held. -/
def isHeld (cs : List Char) : Bool :=
  match integerOf? cs with
  | some n => leastInteger ≤ n && n ≤ greatestInteger
  | none => !isFraction (dropSign cs) || (Scaled.ofDecimal (dropSign cs)).isFinite

mutual
/-- Every number in a value can be held. -/
def Value.isHeld : Value → Bool
  | .number text => Toml.isHeld text.toList
  | .array _ items => itemsHeld items
  | .table _ entries => entriesHeld entries
  | _ => true
/-- Every number in the items of a list can be held. -/
def itemsHeld : List Value → Bool
  | [] => true
  | v :: rest => v.isHeld && itemsHeld rest
/-- Every number in the entries of a table can be held. -/
def entriesHeld : List (String × Value) → Bool
  | [] => true
  | (_, v) :: rest => v.isHeld && entriesHeld rest
end

end RenderCatalog.Toml
