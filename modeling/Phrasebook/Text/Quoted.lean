import Phrasebook.Text.Printable

/-!
# Quoted texts

A quoted text stands on one line: the quotation mark in use, the backslash and the line feed,
carriage return and tabulator are escaped by a letter or by themselves, every other character that
is not printable by its code point in two, four or eight hexadecimal digits. `quoted` prefers
apostrophes, `literal` prefers quotation marks; either gives way to the other mark so that fewer
characters need an escape.
-/

namespace Phrasebook.Text

def apostrophe : Char := '\''

def quotationMark : Char := '"'

/-- The last `width` hexadecimal digits of a number, the most significant first. -/
def hexDigits : Nat → Nat → List Char
  | 0, _ => []
  | width + 1, n => hexDigits width (n / 16) ++ [Nat.digitChar (n % 16)]

@[simp] theorem length_hexDigits (width n : Nat) : (hexDigits width n).length = width := by
  induction width generalizing n with
  | zero => rfl
  | succ width ih => simp [hexDigits, ih]

/-- A character by its code point. -/
def escapeCode (c : Char) : List Char :=
  if c.toNat < 0x100 then '\\' :: 'x' :: hexDigits 2 c.toNat
  else if c.toNat < 0x10000 then '\\' :: 'u' :: hexDigits 4 c.toNat
  else '\\' :: 'U' :: hexDigits 8 c.toNat

/-- A character as it stands inside the quotation mark `mark`. -/
def escapeChar (mark c : Char) : List Char :=
  if c = mark ∨ c = '\\' then ['\\', c]
  else if c = '\n' then ['\\', 'n']
  else if c = '\r' then ['\\', 'r']
  else if c = '\t' then ['\\', 't']
  else if isPrintable c then [c]
  else escapeCode c

def escape (mark : Char) (text : List Char) : List Char := text.flatMap (escapeChar mark)

/-- A text between two marks, escaped for them. -/
def enclose (mark : Char) (text : List Char) : List Char := mark :: (escape mark text ++ [mark])

/-- The mark of a quoted text: apostrophes, unless the text has some and no quotation mark. -/
def markFor (text : List Char) : Char :=
  if apostrophe ∈ text ∧ quotationMark ∉ text then quotationMark else apostrophe

/-- A text quoted for a message, in apostrophes where possible. -/
def quoted (text : String) : String :=
  String.ofList (enclose (markFor text.toList) text.toList)

/-- The mark of a literal: quotation marks for a text without any mark, else that of `quoted`. -/
def literalMarkFor (text : List Char) : Char :=
  if apostrophe ∉ text ∧ quotationMark ∉ text then quotationMark else markFor text

/-- A text as a string literal of generated code, in quotation marks where possible. -/
def literal (text : String) : String :=
  String.ofList (enclose (literalMarkFor text.toList) text.toList)

end Phrasebook.Text
