import Phrasebook.Text.Blank
import Phrasebook.Text.Digit

/-!
# Integers in text

Integers are written in decimal or hexadecimal digits and read from decimal digits of any script.
Neither direction of decimal conversion goes beyond a fixed number of digits. Blanks around a number
are skipped, a single low line may stand between two digits, and a sign may stand in front.
-/

namespace Phrasebook.Number

/-- The largest number of decimal digits that are read or written. -/
def digitLimit : Nat := 4300

def decimal (n : Nat) : List Char := Nat.toDigits 10 n

def hexadecimal (n : Nat) : List Char := Nat.toDigits 16 n

/-- The decimal digits of a natural number, if they are within the limit. -/
def decimal? (n : Nat) : Option (List Char) :=
  let digits := decimal n
  if digits.length ≤ digitLimit then some digits else none

def decimalInt? (n : Int) : Option (List Char) :=
  (decimal? n.natAbs).map fun digits => if n < 0 then '-' :: digits else digits

/-- The value of decimal digits, the most significant first. -/
def ofDigits (digits : List Nat) : Nat := digits.foldl (fun acc d => acc * 10 + d) 0

/-- The digits of a run in which single low lines may stand between digits. -/
def readDigits? : List Char → Option (List Nat)
  | [] => none
  | [c] => (Text.decimalValue? c).map ([·])
  | c :: '_' :: rest => do return (← Text.decimalValue? c) :: (← readDigits? rest)
  | c :: rest => do return (← Text.decimalValue? c) :: (← readDigits? rest)

/-- Whether a character may stand around a number: a blank, but of the control characters of Basic
Latin only those from the tabulator to the carriage return. -/
def isMargin (c : Char) : Bool :=
  if c.toNat < 128 then ('\t' ≤ c && c ≤ '\r') || c == ' ' else Text.isBlank c

/-- A text without what may stand around a number. -/
def trimMargins (text : List Char) : List Char :=
  ((text.dropWhile isMargin).reverse.dropWhile isMargin).reverse

def splitSign : List Char → Bool × List Char
  | '-' :: rest => (true, rest)
  | '+' :: rest => (false, rest)
  | rest => (false, rest)

def readInt? (text : String) : Option Int := do
  let (negative, body) := splitSign (trimMargins text.toList)
  let digits ← readDigits? body
  if digits.length ≤ digitLimit then
    return if negative then -(ofDigits digits : Int) else ofDigits digits
  else none

end Phrasebook.Number
