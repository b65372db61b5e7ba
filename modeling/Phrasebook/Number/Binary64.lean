import Phrasebook.Number.Integer
import Phrasebook.Number.Power
import Phrasebook.Number.Rounding

/-!
# Binary floating-point numbers

A finite number is a sign and a significand times a power of two. Significands stay below `2 ^ 53`
and exponents between `-1074` and `971`; a significand below `2 ^ 52` occurs with the least exponent
only. Numbers are rounded to this form from exact quotients, a half going to the even neighbour.
-/

namespace Phrasebook.Number

/-- A binary floating-point number of 64 bits. -/
inductive Binary64
  /-- The number `significand * 2 ^ exponent`, or its opposite. -/
  | finite (negative : Bool) (significand : Nat) (exponent : Int)
  | infinite (negative : Bool)
  | nan
  deriving DecidableEq, Repr

namespace Binary64

def minExponent : Int := -1074

def maxExponent : Int := 971

/-- A quotient scaled by a power of two, as a quotient. -/
def scaled (num den : Nat) (exponent : Int) : Nat × Nat :=
  if 0 ≤ exponent then (num * twoPow exponent.toNat, den) else (num, den * twoPow (-exponent).toNat)

/-- The exponent that leaves 53 binary digits before the point of a positive quotient, or the least
exponent. -/
def exponentFor (num den : Nat) : Int :=
  let guess : Int := (Nat.log2 num : Int) - Nat.log2 den - 52
  let (n, d) := scaled num den (-guess)
  max minExponent (if n / d < twoPow 52 then guess - 1 else guess)

/-- The number nearest to a quotient. -/
def ofRatio (negative : Bool) (num den : Nat) : Binary64 :=
  if num = 0 then .finite negative 0 minExponent
  else
    let exponent := exponentFor num den
    let (n, d) := scaled num den (-exponent)
    let significand := roundDiv n d
    let (significand, exponent) :=
      if significand = twoPow 53 then (twoPow 52, exponent + 1) else (significand, exponent)
    if maxExponent < exponent then .infinite negative else .finite negative significand exponent

/-- The number nearest to an integer, unless it is beyond the finite numbers. -/
def ofInt? (n : Int) : Option Binary64 :=
  match ofRatio (n < 0) n.natAbs 1 with
  | .infinite _ => none
  | x => some x

/-- The integer part of a finite number, toward zero. -/
def truncate (negative : Bool) (significand : Nat) (exponent : Int) : Int :=
  let (n, d) := scaled significand 1 exponent
  if negative then -(n / d : Int) else n / d

def spanDigits (text : List Char) : List Nat × List Char :=
  ((text.takeWhile Char.isDigit).map fun c => c.toNat - '0'.toNat, text.dropWhile Char.isDigit)

/-- A signed decimal exponent, or zero at the end of the text. -/
def readExponent? : List Char → Option Int
  | [] => some 0
  | e :: rest =>
    if e = 'e' ∨ e = 'E' then
      let (negative, rest) := splitSign rest
      let (digits, rest) := spanDigits rest
      if digits.isEmpty ∨ !rest.isEmpty then none
      else some (if negative then -(ofDigits digits : Int) else ofDigits digits)
    else none

/-- The number nearest to `digits * 10 ^ exponent`. A number with `n` digits is below `10 ^ n`, so
large exponents of either sign are decided without their power. -/
def ofScientific (negative : Bool) (digits : List Nat) (exponent : Int) : Binary64 :=
  let digits := digits.dropWhile (· = 0)
  let value := ofDigits digits
  if value = 0 then .finite negative 0 minExponent
  else if 400 < digits.length + exponent then .infinite negative
  else if digits.length + exponent < -400 then .finite negative 0 minExponent
  else if 0 ≤ exponent then ofRatio negative (value * tenPow exponent.toNat) 1
  else ofRatio negative value (tenPow (-exponent).toNat)

/-- The number nearest to the one a decimal text denotes. -/
def read? (text : String) : Option Binary64 :=
  let (negative, body) := splitSign (Text.trim text.toList)
  let word := body.map Char.toLower
  if word = "inf".toList ∨ word = "infinity".toList then some (.infinite negative)
  else if word = "nan".toList then some .nan
  else
    let (whole, rest) := spanDigits body
    let (fraction, rest) :=
      match rest with
      | '.' :: rest => spanDigits rest
      | rest => ([], rest)
    if whole.isEmpty ∧ fraction.isEmpty then none
    else (readExponent? rest).map fun exponent =>
      ofScientific negative (whole ++ fraction) (exponent - fraction.length)

end Binary64

end Phrasebook.Number
