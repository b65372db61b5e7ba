import Phrasebook.Text.Quoted

/-!
# Reading string literals

The value of the body of a string literal of generated code. A backslash takes the following
characters with it: a mark or a backslash stands for itself, a line feed for nothing, a letter for a
control character, digits for a code point. A backslash before any other character stands for
itself. A body with an unfinished escape, or with one outside the range of characters, has no value.
-/

namespace Phrasebook.Text

/-- The value of a hexadecimal digit in either case. -/
def hexValue? (c : Char) : Option Nat :=
  if '0' ≤ c ∧ c ≤ '9' then some (c.toNat - '0'.toNat)
  else if 'a' ≤ c ∧ c ≤ 'f' then some (c.toNat - 'a'.toNat + 10)
  else if 'A' ≤ c ∧ c ≤ 'F' then some (c.toNat - 'A'.toNat + 10)
  else none

/-- The value of a run of hexadecimal digits, the most significant first. -/
def readHex? (digits : List Char) : Option Nat :=
  digits.foldlM (fun acc c => (hexValue? c).map (acc * 16 + ·)) 0

/-- The character at a code point, if there is one. -/
def charAt? (n : Nat) : Option Char :=
  if n.isValidChar then some (Char.ofNat n) else none

def octalValue? (c : Char) : Option Nat :=
  if '0' ≤ c ∧ c ≤ '7' then some (c.toNat - '0'.toNat) else none

/-- The control character that a letter stands for after a backslash. -/
def controlOf? (c : Char) : Option Char :=
  match c with
  | 'a' => some '\x07'
  | 'b' => some '\x08'
  | 'f' => some '\x0c'
  | 'n' => some '\n'
  | 'r' => some '\r'
  | 't' => some '\t'
  | 'v' => some '\x0b'
  | _ => none

/-- The value of the body of a string literal. -/
def unescape? : List Char → Option (List Char)
  | [] => some []
  | '\\' :: 'x' :: a :: b :: rest => do
    let c ← (readHex? [a, b]).bind charAt?
    return c :: (← unescape? rest)
  | '\\' :: 'u' :: a :: b :: c :: d :: rest => do
    let e ← (readHex? [a, b, c, d]).bind charAt?
    return e :: (← unescape? rest)
  | '\\' :: 'U' :: a :: b :: c :: d :: e :: f :: g :: h :: rest => do
    let i ← (readHex? [a, b, c, d, e, f, g, h]).bind charAt?
    return i :: (← unescape? rest)
  | '\\' :: c :: rest =>
    if c = 'x' ∨ c = 'u' ∨ c = 'U' ∨ c = 'N' then none
    else if c = '\n' then unescape? rest
    else if c = '\\' ∨ c = apostrophe ∨ c = quotationMark then (unescape? rest).map (c :: ·)
    else match controlOf? c, octalValue? c with
      | some d, _ => (unescape? rest).map (d :: ·)
      | none, none => (unescape? rest).map ('\\' :: c :: ·)
      | none, some i =>
        match rest with
        | [] => some [Char.ofNat i]
        | d :: rest' =>
          match octalValue? d with
          | none => (unescape? (d :: rest')).map (Char.ofNat i :: ·)
          | some j =>
            match rest' with
            | [] => some [Char.ofNat (i * 8 + j)]
            | e :: rest'' =>
              match octalValue? e with
              | none => (unescape? (e :: rest'')).map (Char.ofNat (i * 8 + j) :: ·)
              | some k => (unescape? rest'').map (Char.ofNat ((i * 8 + j) * 8 + k) :: ·)
  | ['\\'] => none
  | c :: rest => (unescape? rest).map (c :: ·)

end Phrasebook.Text
