import Phrasebook.Proofs.Format.Spec

/-!
# The percent operator

The percent operator shows a value by an order: a percent sign, flags in any number, a width, a
precision and a letter. It has its own rules for padding: a text stands at the right unless a flag
says otherwise, zeros fill the field of a number between its sign and its digits, and a flag that
means nothing to the letter is ignored.
-/

namespace Phrasebook.Percent

open Number Text Format

structure Flags where
  /-- Whether the value stands at the left of its field. -/
  left : Bool := false
  /-- Whether a number that is not negative has a plus sign. -/
  plus : Bool := false
  /-- Whether a number that is not negative has a blank in the place of its sign. -/
  blank : Bool := false
  /-- Whether hexadecimal digits follow the mark of their base. -/
  alternate : Bool := false
  /-- Whether zeros fill the field of a number. -/
  zero : Bool := false
  deriving DecidableEq, Repr

/-- An order of the percent operator. -/
structure Order where
  flags : Flags
  width : Nat
  precision : Option Nat
  /-- The letter that says what to show. -/
  letter : Char
  deriving DecidableEq, Repr

/-- The largest width of an order. -/
def widthLimit : Nat := twoPow 63 - 1

/-- The largest precision of an order. -/
def precisionLimit : Nat := twoPow 31 - 1

/-- The flags with a further one, if the character is a flag. -/
def Flags.add? (flags : Flags) : Char → Option Flags
  | '-' => some { flags with left := true }
  | '+' => some { flags with plus := true }
  | ' ' => some { flags with blank := true }
  | '#' => some { flags with alternate := true }
  | '0' => some { flags with zero := true }
  | _ => none

/-- The flags at the start of a text, added to others, and the rest. -/
def readFlags (flags : Flags) : List Char → Flags × List Char
  | [] => (flags, [])
  | c :: rest =>
    match flags.add? c with
    | some flags => readFlags flags rest
    | none => (flags, c :: rest)

/-- The number at the start of a text, zero without digits, and the rest. -/
def readNumber (text : List Char) : Nat × List Char :=
  (digitsValue (text.takeWhile Char.isDigit), text.dropWhile Char.isDigit)

/-- The precision at the start of a text, if there is one, and the rest. -/
def readPrecision : List Char → Option Nat × List Char
  | '.' :: rest => (some (readNumber rest).1, (readNumber rest).2)
  | rest => (none, rest)

def Order.read? : List Char → Option Order
  | '%' :: text =>
    let (flags, text) := readFlags {} text
    let (width, text) := readNumber text
    let (precision, text) := readPrecision text
    match text with
    | [letter] =>
      if width ≤ widthLimit ∧ precision.getD 0 ≤ precisionLimit then
        some ⟨flags, width, precision, letter⟩
      else none
    | _ => none
  | _ => none

def Flags.sign (flags : Flags) (negative : Bool) : List Char :=
  if negative then ['-'] else if flags.plus then ['+'] else if flags.blank then [' '] else []

/-- The mark of the base and the digits of a number, if the letter is one for integers. Decimal
digits are limited in number. -/
def Order.digits? (order : Order) (n : Nat) : Option (List Char × List Char) :=
  let hexadecimal : List Char × List Char :=
    (if order.flags.alternate then ['0', 'x'] else [], Nat.toDigits 16 n)
  match order.letter with
  | 'd' | 'i' => if (toString n).length ≤ 4300 then some ([], (toString n).toList) else none
  | 'x' => some hexadecimal
  | 'X' => some (hexadecimal.1.map Char.toUpper, hexadecimal.2.map Char.toUpper)
  | _ => none

/-- A value in its field: blanks fill it on one side, or zeros between `lead`, which holds the sign
and the mark of the base, and `body`. -/
def Order.place (order : Order) (zeros : Bool) (lead body : List Char) : List Char :=
  let gap := order.width - (lead.length + body.length)
  if order.flags.left then lead ++ body ++ List.replicate gap ' '
  else if zeros then lead ++ List.replicate gap '0' ++ body
  else List.replicate gap ' ' ++ lead ++ body

/-- An integer as an order shows it. A precision is the least number of digits. -/
def Order.showInt? (order : Order) (n : Int) : Option (List Char) := do
  let (mark, digits) ← order.digits? n.natAbs
  let digits := digits.leftpad (order.precision.getD 0) '0'
  return order.place order.flags.zero (order.flags.sign (n < 0) ++ mark) digits

/-- A text as an order shows it. A precision is the largest number of characters. -/
def Order.showText? (order : Order) (text : List Char) : Option (List Char) :=
  if order.letter = 's' then
    some (order.place false [] ((order.precision.map text.take).getD text))
  else none

/-- An integer as the operator shows it by a text. -/
def showInt? (order : String) (n : Int) : Option (List Char) :=
  (Order.read? order.toList).bind fun order => order.showInt? n

/-- A text as the operator shows it by another. -/
def showText? (order : String) (text : List Char) : Option (List Char) :=
  (Order.read? order.toList).bind fun order => order.showText? text

section Reading

variable {digits rest : List Char}

theorem Flags.add?_eq_none {flags : Flags} {c : Char}
    (h : c ≠ '-' ∧ c ≠ '+' ∧ c ≠ ' ' ∧ c ≠ '#' ∧ c ≠ '0') : flags.add? c = none := by
  obtain ⟨hminus, hplus, hblank, hhash, hzero⟩ := h
  unfold Flags.add?
  split <;> first | contradiction | rfl

/-- The leading zeros of a width are flags. -/
theorem readFlags_digits (flags : Flags) (hdigits : ∀ c ∈ digits, c.isDigit = true)
    (hrest : ∀ c, rest.head? = some c → ∀ flags : Flags, flags.add? c = none) :
    readFlags flags (digits ++ rest) =
      ({ flags with zero := flags.zero || digits.head? = some '0' },
        digits.dropWhile (· = '0') ++ rest) := by
  induction digits generalizing flags with
  | nil =>
      cases rest with
      | nil => simp [readFlags]
      | cons c rest => simp [readFlags, hrest c rfl flags]
  | cons c digits ih =>
      obtain ⟨hc, htail⟩ := List.forall_mem_cons.mp hdigits
      by_cases hzero : c = '0'
      · subst hzero
        have hadd : flags.add? '0' = some { flags with zero := true } := rfl
        rw [List.cons_append, readFlags, hadd]
        simp [ih _ htail]
      · have hnone : flags.add? c = none := by
          refine Flags.add?_eq_none ⟨?_, ?_, ?_, ?_, hzero⟩ <;> rintro rfl <;> cases hc
        rw [List.cons_append, readFlags, hnone]
        simp [hzero]

theorem readNumber_append (hdigits : ∀ c ∈ digits, c.isDigit = true)
    (hrest : ∀ c, rest.head? = some c → c.isDigit = false) :
    readNumber (digits ++ rest) = (digitsValue digits, rest) := by
  rw [readNumber, takeWhile_append_of_head? hdigits hrest, dropWhile_append_of_head? hdigits hrest]

end Reading

/-- The operator and a field agree on which numbers have few enough decimal digits. -/
theorem decimal?_of_length {n : Nat} (h : (toString n).length ≤ 4300) :
    decimal? n = some (toString n).toList := by
  have htext : (toString n).toList = decimal n := String.toList_ofList
  rw [← String.length_toList, htext] at h
  rw [htext]
  exact if_pos h

end Phrasebook.Percent
