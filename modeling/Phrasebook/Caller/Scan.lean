import Phrasebook.Caller.Literal
import Phrasebook.Caller.Token
import Phrasebook.Key
import Phrasebook.Text.Line

/-!
# Cutting callers into tokens

The text of a caller is cut line by line. The depth of a line that starts a statement is compared
with the open depths, once with tabulators as wide as eight columns and once as one; both must give
the same order. Inside brackets and after a backslash the line goes on.
-/

namespace Phrasebook.Caller

/-- The place and the surroundings of the next character. -/
structure Scanner where
  line : Nat := 1
  /-- The number of bytes before the next character on its line. -/
  column : Nat := 0
  /-- The open brackets, the innermost first. -/
  brackets : List Char := []
  /-- The open depths with wide and with narrow tabulators, the innermost first. -/
  depths : List (Nat × Nat) := []

namespace Scanner

/-- The place after characters. -/
def advance (s : Scanner) : List Char → Scanner
  | [] => s
  | c :: rest =>
    let s := if c = '\n' then { s with line := s.line + 1, column := 0 }
      else { s with column := s.column + c.utf8Size }
    s.advance rest

def token (s : Scanner) (kind : TokenKind) (text : String := "") : Token :=
  ⟨kind, text, s.line, s.column⟩

def refuse (s : Scanner) (refusal : CallerRefusal := .grammar) (immediate : Bool := true) :
    List Token :=
  [s.token (.bad refusal immediate)]

/-- The last tokens of a text: brackets must be closed, and all depths end. -/
def finish (s : Scanner) : List Token :=
  if s.brackets.isEmpty then s.depths.map (fun _ => s.token .dedent) ++ [s.token .finish]
  else s.refuse .grammar false

def depth (s : Scanner) : Nat × Nat := s.depths.headD (0, 0)

end Scanner

def depthLimit : Nat := 99

def bracketLimit : Nat := 200

/-- The tokens for the depth of a line and the open depths behind it, or a refusal. -/
def indentation (s : Scanner) (wide narrow : Nat) :
    Except CallerRefusal (List Token × List (Nat × Nat)) :=
  let (top, topNarrow) := s.depth
  if wide = top then if narrow = topNarrow then .ok ([], s.depths) else .error .tabulators
  else if top < wide then
    if depthLimit ≤ s.depths.length then .error .indentation
    else if narrow ≤ topNarrow then .error .tabulators
    else .ok ([s.token .indent], (wide, narrow) :: s.depths)
  else
    let depths := s.depths.dropWhile fun d => wide < d.1
    let closed := s.depths.length - depths.length
    let (top, topNarrow) := depths.headD (0, 0)
    if wide ≠ top then .error .indentation
    else if narrow ≠ topNarrow then .error .tabulators
    else .ok (List.replicate closed (s.token .dedent), depths)

/-- The depth of a line with wide and with narrow tabulators, the place after it and the rest of the
line. A form feed starts anew. -/
def measure (s : Scanner) (wide narrow : Nat) : List Char → Scanner × Nat × Nat × List Char
  | [] => (s, wide, narrow, [])
  | c :: rest =>
    let s' := { s with column := s.column + 1 }
    if c = ' ' then measure s' (wide + 1) (narrow + 1) rest
    else if c = '\t' then measure s' ((wide / 8 + 1) * 8) (narrow + 1) rest
    else if c = '\x0c' then measure s' 0 0 rest
    else (s, wide, narrow, c :: rest)

/-- The marks of three, two and one characters. -/
def marks : List (List Char) :=
  ["**=", "//=", ">>=", "<<=", "...", "**", "//", ">>", "<<", "<=", ">=", "==", "!=", "->", "+=",
    "-=", "*=", "/=", "%=", "&=", "|=", "^=", "@=", ":=", "<>"].map String.toList

def markAt (text : List Char) : List Char :=
  match marks.find? fun mark => mark.isPrefixOf text with
  | some mark => mark
  | none => text.take 1

def opening? (c : Char) : Option Char :=
  match c with
  | ')' => some '('
  | ']' => some '['
  | '}' => some '{'
  | _ => none

/-- The open brackets after a mark, unless they do not fit. -/
def bracketsAfter? (brackets : List Char) (mark : List Char) : Option (List Char) :=
  match mark with
  | [c] =>
    if c = '(' ∨ c = '[' ∨ c = '{' then
      if bracketLimit ≤ brackets.length then none else some (c :: brackets)
    else match opening? c with
      | none => some brackets
      | some o => if brackets.head? = some o then some brackets.tail else none
  | _ => some brackets

mutual

/-- The tokens from the start of a line that may start a statement. Lines without one are
skipped. -/
def scanLine : Nat → Scanner → List Char → List Token
  | 0, s, _ => s.refuse
  | fuel + 1, s, text =>
    let (s, wide, narrow, rest) := measure s 0 0 text
    match rest with
    | [] => s.finish
    | '#' :: _ =>
      match rest.dropWhile (· ≠ '\n') with
      | [] => s.finish
      | _ :: next => scanLine fuel { s with line := s.line + 1, column := 0 } next
    | '\n' :: next => scanLine fuel { s with line := s.line + 1, column := 0 } next
    | '\\' :: '\n' :: next =>
      if next.isEmpty then s.refuse .grammar false
      else scanContinued fuel { s with line := s.line + 1, column := 0 } wide next
    | '\\' :: _ => s.refuse .grammar false
    | _ => scanIndented fuel s wide narrow rest

/-- The tokens of a line that goes on after a backslash in front of its first word. A depth before
the backslash counts. -/
def scanContinued : Nat → Scanner → Nat → List Char → List Token
  | 0, s, _, _ => s.refuse
  | fuel + 1, s, wide, text =>
    let (s, wide', narrow', rest) := measure s wide wide text
    let (wide, narrow) := if wide = 0 then (wide', narrow') else (wide, wide)
    match rest with
    | [] => s.finish
    | '#' :: _ => scanLine fuel s rest
    | '\n' :: _ => scanLine fuel s rest
    | '\\' :: '\n' :: next =>
      if next.isEmpty then s.refuse .grammar false
      else scanContinued fuel { s with line := s.line + 1, column := 0 } wide next
    | '\\' :: _ => s.refuse .grammar false
    | _ => scanIndented fuel s wide narrow rest

def scanIndented : Nat → Scanner → Nat → Nat → List Char → List Token
  | 0, s, _, _, _ => s.refuse
  | fuel + 1, s, wide, narrow, rest =>
    match indentation s wide narrow with
    | .error refusal => s.refuse refusal false
    | .ok (tokens, depths) => tokens ++ scanWords fuel { s with depths } rest

def scanWords : Nat → Scanner → List Char → List Token
  | 0, s, _ => s.refuse
  | _ + 1, s, [] => s.finish
  | fuel + 1, s, c :: rest =>
    if c = ' ' ∨ c = '\t' ∨ c = '\x0c' then scanWords fuel (s.advance [c]) rest
    else if c = '#' then scanWords fuel s (rest.dropWhile (· ≠ '\n'))
    else if c = '\n' then
      if s.brackets.isEmpty then s.token .newline :: scanLine fuel (s.advance [c]) rest
      else scanWords fuel (s.advance [c]) rest
    else if c = '\\' then
      match rest with
      | '\n' :: next =>
        if next.isEmpty then s.refuse .grammar false
        else scanWords fuel (s.advance ['\n']) next
      | _ => s.refuse .grammar false
    else if isWordStart c then
      let word := (c :: rest).takeWhile isWordChar
      let next := (c :: rest).dropWhile isWordChar
      let marker := String.ofList (word.map Char.toLower)
      match next with
      | m :: body =>
        if (m = Text.apostrophe ∨ m = Text.quotationMark) ∧ stringMarkers.contains marker then
          scanString fuel s marker m body (c :: rest)
        else scanWord fuel s word next
      | [] => scanWord fuel s word next
    else if c.isDigit ∨ (c = '.' ∧ rest.head?.any Char.isDigit) then
      match afterNumber? (c :: rest) with
      | none => s.refuse
      | some next =>
        let number := (c :: rest).take (rest.length + 1 - next.length)
        s.token .number :: scanWords fuel (s.advance number) next
    else if c = Text.apostrophe ∨ c = Text.quotationMark then
      scanString fuel s "" c rest (c :: rest)
    else if c.toNat < 32 ∨ c.toNat = 127 then s.refuse
    else
      let mark := markAt (c :: rest)
      match bracketsAfter? s.brackets mark with
      | none => s.refuse
      | some brackets =>
        s.token .mark (String.ofList mark)
          :: scanWords fuel { s.advance mark with brackets } ((c :: rest).drop mark.length)

def scanWord : Nat → Scanner → List Char → List Char → List Token
  | 0, s, _, _ => s.refuse
  | fuel + 1, s, word, next =>
    if !Text.isIdentifier word then s.refuse
    else
      let text := String.ofList word
      let kind := if Key.keywords.contains text then TokenKind.keyword else .name
      s.token kind text :: scanWords fuel (s.advance word) next

/-- The token of the string at the start of `text`, whose opening mark is followed by `rest`, and
those behind it. -/
def scanString : Nat → Scanner → String → Char → List Char → List Char → List Token
  | 0, s, _, _, _, _ => s.refuse
  | fuel + 1, s, marker, mark, rest, text =>
    match stringBody? mark rest with
    | none => s.refuse
    | some (body, next) =>
      let kind := TokenKind.string (marker.toList.contains 'b') (isSound marker body)
      let consumed := text.take (text.length - next.length)
      s.token kind :: scanWords fuel (s.advance consumed) next

end

/-- A text in which every line ends in a line feed, the last one too. A text that ends in a carriage
return and a line feed gets an empty line. -/
def closeLines (text : List Char) : List Char :=
  let lines := Text.unifyNewlines text
  if lines.getLast? = some '\n' ∧ ¬ ['\n', '\r'].isPrefixOf text.reverse then lines
  else lines ++ ['\n']

/-- The tokens of the text of a caller, in which a null character cannot stand. -/
def tokens (text : String) : List Token :=
  if text.toList.contains '\x00' then [⟨.bad .grammar true, "", 1, 0⟩]
  else
    let text := closeLines text.toList
    scanLine (4 * text.length + 8) {} text

end Phrasebook.Caller
