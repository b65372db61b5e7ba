import Phrasebook.Format.Spec

/-!
# Format strings

A format string is text with replacement fields in braces; a doubled brace stands for itself. The
fields take the values in order. A field has an optional conversion `!s`, which turns its value into
text first, and an optional specification after a colon.
-/

namespace Phrasebook.Format

structure Field where
  /-- Whether the value is turned into text first. -/
  asText : Bool
  /-- The text of the specification, empty if there is none. -/
  spec : List Char
  deriving DecidableEq, Repr

inductive Piece
  | char (c : Char)
  | field (f : Field)
  deriving DecidableEq, Repr

/-- The field that the text between two braces denotes. -/
def Field.read? : List Char → Option Field
  | [] => some ⟨false, []⟩
  | ':' :: spec => some ⟨false, spec⟩
  | ['!', 's'] => some ⟨true, []⟩
  | '!' :: 's' :: ':' :: spec => some ⟨true, spec⟩
  | _ => none

/-- The pieces of a format string. Inside a field the first argument holds the characters read since
the opening brace, last first. -/
def piecesFrom : Option (List Char) → List Char → Option (List Piece)
  | none, [] => some []
  | none, '{' :: '{' :: rest => (piecesFrom none rest).map (.char '{' :: ·)
  | none, '}' :: '}' :: rest => (piecesFrom none rest).map (.char '}' :: ·)
  | none, c :: rest =>
    if c = '{' then piecesFrom (some []) rest
    else if c = '}' then none
    else (piecesFrom none rest).map (.char c :: ·)
  | some _, [] => none
  | some inside, c :: rest =>
    if c = '}' then do
      let field ← Field.read? inside.reverse
      return .field field :: (← piecesFrom none rest)
    else if c = '{' then none
    else piecesFrom (some (c :: inside)) rest

def pieces? (text : String) : Option (List Piece) := piecesFrom none text.toList

def Field.show (field : Field) (value : Value) : Except RenderError (List Char) :=
  if field.spec.isEmpty then value.display
  else if field.asText then do
    let text ← value.display
    showValue field.spec (.text (String.ofList text))
  else showValue field.spec value

/-- The text of pieces whose fields take the values in order. -/
def renderPieces : List Piece → List Value → Except RenderError (List Char)
  | [], _ => .ok []
  | .char c :: rest, values => (c :: ·) <$> renderPieces rest values
  | .field _ :: _, [] => .error .missingArgument
  | .field f :: rest, value :: values => do
    let text ← f.show value
    return text ++ (← renderPieces rest values)

def render (text : String) (values : List Value) : Except RenderError String :=
  match pieces? text with
  | some pieces => String.ofList <$> renderPieces pieces values
  | none => .error .unsuitableValue

end Phrasebook.Format
