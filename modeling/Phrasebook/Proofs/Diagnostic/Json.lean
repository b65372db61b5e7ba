import Phrasebook.Diagnostic.Layout
import Phrasebook.Proofs.Text.Literal

/-!
# Reading JSON

The values of JSON and a reader of the whole grammar: space between the parts, numbers with fraction
and exponent, strings with escapes by letter and by code point, arrays and objects. Every function
that goes down into a value takes the number of steps that it may still go down; the length of a
text is enough for the text.
-/

namespace Phrasebook

inductive Json
  | null
  | bool (value : Bool)
  /-- The number `mantissa` with the decimal point moved to the right by `exponent` places. -/
  | number (mantissa exponent : Int)
  | string (text : String)
  | array (items : List Json)
  /-- Names with their values, in the order in which they are written. -/
  | object (members : List (String × Json))

namespace Json

open Text

/-- Whether a character may stand between the parts of a value. -/
def isSpace (c : Char) : Bool := c == ' ' || c == '\t' || c == '\n' || c == '\r'

/-- A text without the space at its start. -/
def skipSpace (text : List Char) : List Char := text.dropWhile isSpace

/-- What follows a mark that stands at the start of a text, or behind space. -/
def afterMark? (mark : Char) (text : List Char) : Option (List Char) :=
  match skipSpace text with
  | [] => none
  | c :: rest => if c = mark then some rest else none

/-- The character that a backslash makes of a character behind it. -/
def escaped? (c : Char) : Option Char :=
  match c with
  | '"' => some '"'
  | '\\' => some '\\'
  | '/' => some '/'
  | 'b' => some '\x08'
  | 'f' => some '\x0c'
  | 'n' => some '\n'
  | 'r' => some '\r'
  | 't' => some '\t'
  | _ => none

/-- The character that two surrogates stand for. -/
def paired? (high low : Nat) : Option Char :=
  if 0xd800 ≤ high ∧ high < 0xdc00 ∧ 0xdc00 ≤ low ∧ low < 0xe000 then
    charAt? (0x10000 + (high - 0xd800) * 0x400 + (low - 0xdc00))
  else none

/-- The characters of a string behind its opening mark, and what follows the closing one. A control
character cannot stand in a string, nor can a surrogate that is not one of a pair. -/
def readChars? : List Char → Option (List Char × List Char)
  | [] => none
  | '"' :: rest => some ([], rest)
  | '\\' :: 'u' :: a :: b :: c :: d :: rest => do
    let code ← readHex? [a, b, c, d]
    match charAt? code with
    | some e => (readChars? rest).map fun (chars, after) => (e :: chars, after)
    | none =>
      match rest with
      | '\\' :: 'u' :: a :: b :: c :: d :: rest => do
        let e ← paired? code (← readHex? [a, b, c, d])
        (readChars? rest).map fun (chars, after) => (e :: chars, after)
      | _ => none
  | '\\' :: c :: rest => do
    let d ← escaped? c
    (readChars? rest).map fun (chars, after) => (d :: chars, after)
  | c :: rest =>
    if c = '\\' ∨ c.toNat < 0x20 then none
    else (readChars? rest).map fun (chars, after) => (c :: chars, after)

def readString? (text : List Char) : Option (String × List Char) := do
  let (chars, after) ← readChars? (← afterMark? '"' text)
  return (String.ofList chars, after)

/-- The digits at the start of a text, of which there must be one, and what follows them. -/
def readDigits? (text : List Char) : Option (List Char × List Char) :=
  if (text.takeWhile Char.isDigit).isEmpty then none
  else some (text.takeWhile Char.isDigit, text.dropWhile Char.isDigit)

/-- The digits of a number before its point. A zero is the only one. -/
def readWhole? : List Char → Option (List Char × List Char)
  | '0' :: rest => some (['0'], rest)
  | text => readDigits? text

/-- The digits of a number behind its point, if there is one. -/
def readFraction? : List Char → Option (List Char × List Char)
  | '.' :: rest => readDigits? rest
  | text => some ([], text)

/-- A sign at the start of a text, told by whether it is a minus, and what follows it. -/
def readSign : List Char → Bool × List Char
  | '-' :: rest => (true, rest)
  | '+' :: rest => (false, rest)
  | text => (false, text)

/-- A number with a sign that has been read. -/
def signed (negative : Bool) (digits : List Char) : Int :=
  if negative then -Nat.ofDigitChars 10 digits 0 else Nat.ofDigitChars 10 digits 0

/-- The exponent of a number, if there is one. -/
def readExponent? : List Char → Option (Int × List Char)
  | [] => some (0, [])
  | c :: rest =>
    if c = 'e' ∨ c = 'E' then do
      let (negative, rest) := readSign rest
      let (digits, rest) ← readDigits? rest
      return (signed negative digits, rest)
    else some (0, c :: rest)

def readNumber? (text : List Char) : Option (Json × List Char) := do
  let (negative, rest) := if text.head? = some '-' then (true, text.tail) else (false, text)
  let (whole, rest) ← readWhole? rest
  let (fraction, rest) ← readFraction? rest
  let (exponent, rest) ← readExponent? rest
  return (.number (signed negative (whole ++ fraction)) (exponent - fraction.length), rest)

def words : List (String × Json) := [("null", .null), ("true", .bool true), ("false", .bool false)]

/-- A word that is a value or a number, and what follows it. -/
def readPlain? (text : List Char) : Option (Json × List Char) :=
  match words.findSome? fun w => (w.1.toList.isPrefixOf? text).map (w.2, ·) with
  | some result => some result
  | none => readNumber? text

mutual

def readValue? : Nat → List Char → Option (Json × List Char)
  | 0, _ => none
  | n + 1, text =>
    match skipSpace text with
    | [] => none
    | c :: rest =>
      if c = '"' then (readString? (c :: rest)).map fun (text, after) => (.string text, after)
      else if c = '[' then
        match afterMark? ']' rest with
        | some after => some (.array [], after)
        | none => (readItems? n rest).map fun (items, after) => (.array items, after)
      else if c = '\x7b' then
        match afterMark? '\x7d' rest with
        | some after => some (.object [], after)
        | none => (readMembers? n rest).map fun (members, after) => (.object members, after)
      else readPlain? (c :: rest)

/-- The items of an array up to its end, and what follows it. -/
def readItems? : Nat → List Char → Option (List Json × List Char)
  | 0, _ => none
  | n + 1, text => do
    let (item, rest) ← readValue? n text
    match afterMark? ',' rest with
    | some more => (readItems? n more).map fun (items, after) => (item :: items, after)
    | none => (afterMark? ']' rest).map fun after => ([item], after)

/-- The members of an object up to its end, and what follows it. -/
def readMembers? : Nat → List Char → Option (List (String × Json) × List Char)
  | 0, _ => none
  | n + 1, text => do
    let (name, rest) ← readString? text
    let (value, rest) ← readValue? n (← afterMark? ':' rest)
    match afterMark? ',' rest with
    | some more =>
      (readMembers? n more).map fun (members, after) => ((name, value) :: members, after)
    | none => (afterMark? '\x7d' rest).map fun after => ([(name, value)], after)

end

/-- The value that a text is, with nothing but space around it. -/
def read? (text : String) : Option Json := do
  let (value, after) ← readValue? (text.toList.length + 1) text.toList
  if skipSpace after = [] then return value else none

def get? (name : String) : Json → Option Json
  | .object members => members.lookup name
  | _ => none

end Json

end Phrasebook
