import Phrasebook.Value

/-!
# Replacement field specifications

A specification `[[fill]align][sign][#][0][width][.precision][kind]` says how a replacement field
shows its value. Text is aligned to the left and numbers to the right unless the specification says
otherwise; a zero before the width fills with zeros, for a number between its sign and its digits.
-/

namespace Phrasebook.Format

open Number

/-- The place of the padding of a field. -/
inductive Align
  | left
  | right
  | center
  /-- The padding stands between the sign and the digits of a number. -/
  | afterSign
  deriving DecidableEq, Repr

def Align.ofChar? : Char → Option Align
  | '<' => some .left
  | '>' => some .right
  | '^' => some .center
  | '=' => some .afterSign
  | _ => none

/-- What a field shows. -/
inductive Kind
  | text
  | decimal
  /-- An integer in hexadecimal digits, in upper case or not. -/
  | hexadecimal (uppercase : Bool)
  | fixed
  deriving DecidableEq, Repr

def Kind.ofChar? : Char → Option Kind
  | 's' => some .text
  | 'd' => some .decimal
  | 'x' => some (.hexadecimal false)
  | 'X' => some (.hexadecimal true)
  | 'f' => some .fixed
  | _ => none

structure Spec where
  fill : Char := ' '
  align : Option Align := none
  sign : Option Char := none
  /-- Whether the alternate form is asked for. -/
  alternate : Bool := false
  /-- Whether a zero stands before the width. -/
  zero : Bool := false
  width : Option Nat := none
  precision : Option Nat := none
  kind : Kind := .text
  deriving DecidableEq, Repr

/-- The largest width and precision that a specification may hold. -/
def sizeLimit : Nat := twoPow 63 - 1

/-- The largest number of decimal places that can be asked for. -/
def placesLimit : Nat := twoPow 31 - 1

/-- The number at the start of a text, if there is one, and the rest; nothing for a number above the
limit. -/
def readSize? (text : List Char) : Option (Option Nat × List Char) :=
  let digits := text.takeWhile Char.isDigit
  let value := ofDigits (digits.map fun c => c.toNat - '0'.toNat)
  if digits.isEmpty then some (none, text)
  else if value ≤ sizeLimit then some (some value, text.dropWhile Char.isDigit)
  else none

/-- The fill character and the alignment at the start of a specification, and the rest. -/
def readAlign : List Char → Option Char × Option Align × List Char
  | [] => (none, none, [])
  | [c] =>
    match Align.ofChar? c with
    | some align => (none, some align, [])
    | none => (none, none, [c])
  | c :: d :: rest =>
    match Align.ofChar? d, Align.ofChar? c with
    | some align, _ => (some c, some align, rest)
    | none, some align => (none, some align, d :: rest)
    | none, none => (none, none, c :: d :: rest)

def readSign : List Char → Option Char × List Char
  | '+' :: rest => (some '+', rest)
  | '-' :: rest => (some '-', rest)
  | ' ' :: rest => (some ' ', rest)
  | rest => (none, rest)

/-- Whether a character stands at the start of a text, and the rest behind it. -/
def readMark (mark : Char) : List Char → Bool × List Char
  | [] => (false, [])
  | c :: rest => if c = mark then (true, rest) else (false, c :: rest)

/-- The precision at the start of a text, if there is one, and the rest. A point without digits is
refused. -/
def readPrecision? : List Char → Option (Option Nat × List Char)
  | '.' :: rest =>
    match readSize? rest with
    | some (some n, rest) => some (some n, rest)
    | _ => none
  | rest => some (none, rest)

def readKind? : List Char → Option Kind
  | [] => some .text
  | [c] => Kind.ofChar? c
  | _ => none

def Spec.read? (text : List Char) : Option Spec := do
  let (fill, align, text) := readAlign text
  let (sign, text) := readSign text
  let (alternate, text) := readMark '#' text
  let (zero, text) := readMark '0' text
  let (width, text) ← readSize? text
  let (precision, text) ← readPrecision? text
  let kind ← readKind? text
  return {
    fill := fill.getD (if zero then '0' else ' ')
    align, sign, alternate, zero, width, precision, kind }

/-- The number of padding characters that bring `size` characters to the width. -/
def Spec.padding (spec : Spec) (size : Nat) : Nat := spec.width.getD 0 - size

/-- A text with the padding at the place of an alignment; `lead` holds the sign and the base mark of
a number. -/
def Spec.pad (spec : Spec) (align : Align) (lead body : List Char) : List Char :=
  let count := spec.padding (lead.length + body.length)
  let fill (n : Nat) : List Char := List.replicate n spec.fill
  match align with
  | .left => lead ++ body ++ fill count
  | .right => fill count ++ lead ++ body
  | .center => fill (count / 2) ++ lead ++ body ++ fill (count - count / 2)
  | .afterSign => lead ++ fill count ++ body

/-- A text as the field shows it: cut to the precision, then padded. -/
def Spec.showText (spec : Spec) (text : List Char) : Except RenderError (List Char) :=
  if spec.kind ≠ .text ∨ spec.sign ≠ none ∨ spec.alternate ∨ spec.align = some .afterSign then
    .error .unsuitableValue
  else
    let body := (spec.precision.map text.take).getD text
    .ok (spec.pad (spec.align.getD .left) [] body)

def Spec.signText (spec : Spec) (negative : Bool) : List Char :=
  if negative then ['-']
  else match spec.sign with
    | some '+' => ['+']
    | some ' ' => [' ']
    | _ => []

/-- A number as the field shows it, from its sign, base mark and digits. -/
def Spec.showNumber (spec : Spec) (negative : Bool) (mark body : List Char) : List Char :=
  let align := spec.align.getD (if spec.zero then .afterSign else .right)
  spec.pad align (spec.signText negative ++ mark) body

def Spec.showFixed (spec : Spec) (x : Binary64) : Except RenderError (List Char) :=
  let places := spec.precision.getD 6
  if placesLimit < places then .error .unsuitableValue
  else match x with
    | .nan => .ok (spec.showNumber false [] "nan".toList)
    | .infinite negative => .ok (spec.showNumber negative [] "inf".toList)
    | .finite negative significand exponent =>
      .ok (spec.showNumber negative [] (fixed places spec.alternate significand exponent))

/-- The digits of an integer in a base, with the mark of the base if it is asked for. -/
def Spec.integerDigits (spec : Spec) (n : Nat) (uppercase : Bool) : List Char × List Char :=
  let digits := hexadecimal n
  let mark := if !spec.alternate then [] else if uppercase then "0X".toList else "0x".toList
  (mark, if uppercase then digits.map Char.toUpper else digits)

def Spec.showInt (spec : Spec) (n : Int) : Except RenderError (List Char) :=
  match spec.kind with
  | .text => .error .unsuitableValue
  | .decimal =>
    if spec.precision.isSome then .error .unsuitableValue
    else match decimal? n.natAbs with
      | some digits => .ok (spec.showNumber (n < 0) [] digits)
      | none => .error .unsuitableValue
  | .hexadecimal uppercase =>
    if spec.precision.isSome then .error .unsuitableValue
    else
      let (mark, digits) := spec.integerDigits n.natAbs uppercase
      .ok (spec.showNumber (n < 0) mark digits)
  | .fixed =>
    match Binary64.ofInt? n with
    | some x => spec.showFixed x
    | none => .error .overflow

/-- A value as a field with a non-empty specification shows it. -/
def showValue (spec : List Char) (value : Value) : Except RenderError (List Char) :=
  let withSpec (f : Spec → Except RenderError (List Char)) : Except RenderError (List Char) :=
    match Spec.read? spec with
    | some s => f s
    | none => .error .unsuitableValue
  match value with
  | .text s => withSpec fun spec => spec.showText s.toList
  | .int n => withSpec fun spec => spec.showInt n
  | .bool b => withSpec fun spec => spec.showInt (if b then 1 else 0)
  | .float x => withSpec fun spec =>
    if spec.kind = .fixed then spec.showFixed x else .error .unsuitableValue
  | .absent => .error .unsuitableKind
  | .list _ => .error .unsuitableKind

end Phrasebook.Format
