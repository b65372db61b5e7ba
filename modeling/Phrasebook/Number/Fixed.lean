import Phrasebook.Number.Binary64

/-!
# Fixed decimal places

The digits of a finite number rounded to a given number of decimal places. The exact binary value is
rounded, a half going to the even neighbour.
-/

namespace Phrasebook.Number

/-- The number `significand * 2 ^ exponent` in units of the last of `places` decimal places. -/
def scaledUnits (significand : Nat) (exponent : Int) (places : Nat) : Nat :=
  let (n, d) := Binary64.scaled significand 1 exponent
  roundDiv (n * tenPow places) d

/-- Digits with zeros in front up to a length. -/
def padZeros (length : Nat) (digits : List Char) : List Char :=
  List.replicate (length - digits.length) '0' ++ digits

/-- Digits with a point before the last `places` of them. The point of a number without places is
written only if `keepPoint` asks for it. -/
def insertPoint (places : Nat) (keepPoint : Bool) (digits : List Char) : List Char :=
  let digits := padZeros (places + 1) digits
  let whole := digits.take (digits.length - places)
  let fraction := digits.drop (digits.length - places)
  if fraction.isEmpty && !keepPoint then whole else whole ++ '.' :: fraction

/-- The number `significand * 2 ^ exponent` with `places` decimal places. -/
def fixed (places : Nat) (keepPoint : Bool) (significand : Nat) (exponent : Int) : List Char :=
  insertPoint places keepPoint (decimal (scaledUnits significand exponent places))

end Phrasebook.Number
