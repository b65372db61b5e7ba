import Phrasebook.Number.Binary64

/-!
# Shortest decimal text

The shortest text of a finite number has the fewest decimal digits that read back as the number, and
of those the digits nearest to it. All arithmetic is exact: a number `significand * 2 ^ exponent`
and the ends of the interval of reals that round to it are quotients with one denominator, and for
each count of digits the two neighbours of the number on that decimal grid are tested against the
interval. Its ends belong to it when the significand is even.
-/

namespace Phrasebook.Number

/-- A positive number together with the interval of reals that round to it, as numerators over one
denominator. -/
structure RoundingInterval where
  low : Nat
  value : Nat
  high : Nat
  den : Nat
  /-- Whether the ends belong to the interval. -/
  closed : Bool

namespace RoundingInterval

/-- The interval of a finite number. Below a power of two the neighbours are half as far apart. -/
def of (significand : Nat) (exponent : Int) : RoundingInterval :=
  let gap := if significand = twoPow 52 ∧ exponent ≠ Binary64.minExponent then 1 else 2
  let scale (n : Nat) : Nat := (Binary64.scaled n 1 (exponent - 2)).1
  { low := scale (4 * significand - gap)
    value := scale (4 * significand)
    high := scale (4 * significand + 2)
    den := (Binary64.scaled 1 1 (exponent - 2)).2
    closed := significand % 2 = 0 }

def contains (interval : RoundingInterval) (num den : Nat) : Bool :=
  let n := num * interval.den
  if interval.closed then interval.low * den ≤ n && n ≤ interval.high * den
  else interval.low * den < n && n < interval.high * den

end RoundingInterval

/-- Decimal digits and the exponent of the first of them: `d.ddd * 10 ^ exponent`. -/
structure Scientific where
  /-- The digits, the first of which is not zero. -/
  digits : List Char
  exponent : Int
  deriving Repr

/-- The integer `e` with `10 ^ e ≤ num / den < 10 ^ (e + 1)` for a positive quotient. -/
def decimalExponent (num den : Nat) : Int :=
  let guess : Int := ((decimal num).length : Int) - (decimal den).length
  let reached :=
    if 0 ≤ guess then den * tenPow guess.toNat ≤ num else den ≤ num * tenPow (-guess).toNat
  if reached then guess else guess - 1

/-- The number on the grid of multiples of `10 ^ power` that is nearest to the one of the interval
among its two neighbours inside the interval. -/
def nearestOnGrid? (interval : RoundingInterval) (power : Int) : Option Nat :=
  let up := tenPow power.toNat
  let down := tenPow (-power).toNat
  let below := interval.value * down / (interval.den * up)
  let hit (n : Nat) : Bool := interval.contains (n * up) down
  let distanceBelow := interval.value * down - below * (interval.den * up)
  let distanceAbove := (below + 1) * (interval.den * up) - interval.value * down
  match hit below, hit (below + 1) with
  | true, true => some (if distanceBelow ≤ distanceAbove then below else below + 1)
  | true, false => some below
  | false, true => some (below + 1)
  | false, false => none

def dropTrailingZeros (digits : List Char) : List Char :=
  (digits.reverse.dropWhile (· = '0')).reverse

/-- The digits of the first grid, from `count` digits on, that meets the interval; `fuel` bounds the
grids that are tried. -/
def searchShortest (interval : RoundingInterval) (exponent : Int) :
    (fuel count : Nat) → Scientific
  | 0, _ => ⟨decimal interval.value, exponent⟩
  | fuel + 1, count =>
    let power := exponent - (count - 1 : Int)
    match nearestOnGrid? interval power with
    | some n =>
      let digits := decimal n
      ⟨dropTrailingZeros digits, power + (digits.length - 1 : Int)⟩
    | none => searchShortest interval exponent fuel (count + 1)

/-- The shortest digits of the positive number `significand * 2 ^ exponent`. Seventeen digits always
suffice. -/
def shortest (significand : Nat) (exponent : Int) : Scientific :=
  let interval := RoundingInterval.of significand exponent
  searchShortest interval (decimalExponent interval.value interval.den) 17 1

/-- The exponents that are written positionally: at least the first and below the second. -/
def positionalExponents : Int × Int := (-4, 16)

/-- A decimal exponent with its sign and at least two digits. -/
def exponentText (exponent : Int) : List Char :=
  let digits := decimal exponent.natAbs
  (if exponent < 0 then '-' else '+') :: (if digits.length < 2 then '0' :: digits else digits)

/-- Digits and an exponent as text: positional with at least one place for the exponents of
`positionalExponents`, in scientific notation for the others. -/
def Scientific.text (s : Scientific) : List Char :=
  if positionalExponents.1 ≤ s.exponent ∧ s.exponent < positionalExponents.2 then
    if s.exponent < 0 then
      '0' :: '.' :: (List.replicate (-s.exponent - 1).toNat '0' ++ s.digits)
    else
      let size := s.exponent.toNat + 1
      let whole := s.digits.take size ++ List.replicate (size - s.digits.length) '0'
      let fraction := s.digits.drop size
      whole ++ '.' :: (if fraction.isEmpty then ['0'] else fraction)
  else match s.digits with
    | [] => []
    | [d] => d :: 'e' :: exponentText s.exponent
    | d :: rest => d :: '.' :: (rest ++ 'e' :: exponentText s.exponent)

/-- The shortest text of a number. A zero keeps its sign. -/
def Binary64.text : Binary64 → List Char
  | .nan => "nan".toList
  | .infinite negative => if negative then "-inf".toList else "inf".toList
  | .finite negative significand exponent =>
    let magnitude :=
      if significand = 0 then "0.0".toList else (shortest significand exponent).text
    if negative then '-' :: magnitude else magnitude

end Phrasebook.Number
