import Phrasebook.Text.Literal

/-!
# Numbers and strings of callers

Where a number or a string ends, and whether it is well formed. A number must not run into a letter,
except one that starts a keyword that may follow it.
-/

namespace Phrasebook.Caller

open Text

/-- Whether a character may stand in a name. Characters beyond Basic Latin are checked later. -/
def isWordChar (c : Char) : Bool := c.isAlphanum || c == '_' || c.toNat ≥ 128

def isWordStart (c : Char) : Bool := isWordChar c && !c.isDigit

/-- What follows digits of a kind, where single low lines may stand between them. -/
def afterDigits? (isDigit : Char → Bool) : List Char → Option (List Char)
  | [] => some []
  | '_' :: c :: rest => if isDigit c then afterDigits? isDigit rest else none
  | c :: rest =>
    if isDigit c then afterDigits? isDigit rest else if c = '_' then none else some (c :: rest)

def afterRun? (isDigit : Char → Bool) : List Char → Option (List Char)
  | [] => none
  | c :: rest => if isDigit c then afterDigits? isDigit rest else none

/-- The starts of the keywords that may follow a number at once. -/
def followers : List (List Char) :=
  ["and", "else", "for", "if", "in", "is", "or", "not"].map String.toList

/-- What follows a number, unless the number runs into a word. -/
def numberEnd? (rest : List Char) : Option (List Char) :=
  if followers.any fun word => word.isPrefixOf rest then some rest
  else match rest with
    | c :: _ => if isWordChar c then none else some rest
    | [] => some rest

/-- What follows the mark of an imaginary number, or a number without one. -/
def afterImaginary? : List Char → Option (List Char)
  | c :: rest => if c = 'j' ∨ c = 'J' then numberEnd? rest else numberEnd? (c :: rest)
  | [] => some []

def afterExponent? : List Char → Option (List Char)
  | [] => some []
  | c :: rest =>
    if c = 'e' ∨ c = 'E' then
      match rest with
      | [] => none
      | s :: digits =>
        if s = '+' ∨ s = '-' then (afterRun? Char.isDigit digits).bind afterImaginary?
        else if s.isDigit then (afterRun? Char.isDigit rest).bind afterImaginary?
        else numberEnd? (c :: rest)
    else afterImaginary? (c :: rest)

def afterFraction? : List Char → Option (List Char)
  | '.' :: c :: rest =>
    if c.isDigit then (afterRun? Char.isDigit (c :: rest)).bind afterExponent?
    else afterExponent? (c :: rest)
  | rest => afterExponent? rest

def afterBased? (isDigit : Char → Bool) (rest : List Char) : Option (List Char) := do
  let digits := match rest with
    | '_' :: digits => digits
    | _ => rest
  let rest ← afterRun? isDigit digits
  match rest with
  | c :: _ => if c.isDigit then none else numberEnd? rest
  | [] => some rest

/-- Whether the integer part of a number starts with a zero and is not zero. -/
def hasLeadingZero (digits : List Char) : Bool :=
  digits.head? == some '0' && digits.any fun c => c.isDigit && c != '0'

/-- Whether a character lets a number with a leading zero go on. -/
def isContinuation (c : Char) : Bool :=
  c == '.' || c == 'e' || c == 'E' || c == 'j' || c == 'J'

/-- What follows the number at the start of a text, if it is well formed. -/
def afterNumber? (text : List Char) : Option (List Char) :=
  match text with
  | '.' :: _ => afterFraction? text
  | '0' :: 'x' :: rest => afterBased? (fun c => (hexValue? c).isSome) rest
  | '0' :: 'X' :: rest => afterBased? (fun c => (hexValue? c).isSome) rest
  | '0' :: 'o' :: rest => afterBased? (fun c => (octalValue? c).isSome) rest
  | '0' :: 'O' :: rest => afterBased? (fun c => (octalValue? c).isSome) rest
  | '0' :: 'b' :: rest => afterBased? (fun c => c == '0' || c == '1') rest
  | '0' :: 'B' :: rest => afterBased? (fun c => c == '0' || c == '1') rest
  | _ => do
    let rest ← afterRun? Char.isDigit text
    let digits := text.take (text.length - rest.length)
    if hasLeadingZero digits && !(rest.head?.any isContinuation) then none
    else afterFraction? rest

/-- The body of a string on one line and what follows its closing mark. A backslash takes the next
character with it. -/
def shortBody? (mark : Char) : List Char → Option (List Char × List Char)
  | [] => none
  | '\\' :: c :: rest => (shortBody? mark rest).map fun (body, rest) => ('\\' :: c :: body, rest)
  | c :: rest =>
    if c = mark then some ([], rest)
    else if c = '\n' then none
    else (shortBody? mark rest).map fun (body, rest) => (c :: body, rest)

/-- The body of a string between triple marks and what follows the closing ones. -/
def longBody? (mark : Char) : List Char → Option (List Char × List Char)
  | [] => none
  | '\\' :: c :: rest => (longBody? mark rest).map fun (body, rest) => ('\\' :: c :: body, rest)
  | c :: rest =>
    if [mark, mark, mark].isPrefixOf (c :: rest) then some ([], rest.drop 2)
    else (longBody? mark rest).map fun (body, rest) => (c :: body, rest)

/-- The body of the string whose opening mark has been read, and what follows it. -/
def stringBody? (mark : Char) (rest : List Char) : Option (List Char × List Char) :=
  if [mark, mark].isPrefixOf rest then longBody? mark (rest.drop 2) else shortBody? mark rest

/-- The words that may stand before a string, in lower case. -/
def stringMarkers : List String := ["r", "u", "b", "f", "br", "rb", "fr", "rf"]

/-- Whether a text starts with the name of a character in braces. Whether there is such a character
is not checked. -/
def startsWithCharacterName : List Char → Bool
  | '{' :: rest =>
    let name := rest.takeWhile fun c => c.isAlphanum || c == ' ' || c == '-'
    !name.isEmpty && (rest.drop name.length).head? == some '}'
  | _ => false

def soundCharacters : List Char → Bool
  | [] => true
  | '\\' :: 'x' :: a :: b :: rest => (readHex? [a, b]).isSome && soundCharacters rest
  | '\\' :: 'u' :: a :: b :: c :: d :: rest =>
    (readHex? [a, b, c, d]).isSome && soundCharacters rest
  | '\\' :: 'U' :: a :: b :: c :: d :: e :: f :: g :: h :: rest =>
    ((readHex? [a, b, c, d, e, f, g, h]).any (· < 0x110000)) && soundCharacters rest
  | '\\' :: 'N' :: rest => startsWithCharacterName rest && soundCharacters rest
  | '\\' :: c :: rest => c != 'x' && c != 'u' && c != 'U' && soundCharacters rest
  | _ :: rest => soundCharacters rest

def soundBytes : List Char → Bool
  | [] => true
  | '\\' :: 'x' :: a :: b :: rest => (readHex? [a, b]).isSome && soundBytes rest
  | '\\' :: c :: rest => c != 'x' && soundBytes rest
  | _ :: rest => soundBytes rest

/-- Whether the body of a string with a marker is sound. Bytes are written in Basic Latin, and a
backslash has no meaning in a raw string. -/
def isSound (marker : String) (body : List Char) : Bool :=
  let raw := marker.toList.contains 'r'
  if marker.toList.contains 'b' then
    body.all (fun c => c.toNat < 128) && (raw || soundBytes body)
  else raw || soundCharacters body

end Phrasebook.Caller
