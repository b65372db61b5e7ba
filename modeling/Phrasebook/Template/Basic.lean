import Phrasebook.Format.Pieces
import Phrasebook.Invalid

/-!
# Templates

A template is the text of a wording cut into literal runs and directives. A directive is a
percent sign, an optional flag, width and precision, and a letter that says what to show. The same
template can be written as a format string, with a replacement field for each directive.
-/

namespace Phrasebook

/-- What a directive shows. -/
inductive Conversion
  | decimal
  /-- An integer, by another letter. -/
  | integer
  | string
  /-- A text, by another letter. -/
  | object
  | hexLower
  | hexUpper
  | float
  deriving DecidableEq, Repr

namespace Conversion

def all : List Conversion :=
  [.decimal, .integer, .string, .object, .hexLower, .hexUpper, .float]

def letter : Conversion → Char
  | .decimal => 'd'
  | .integer => 'i'
  | .string => 's'
  | .object => '@'
  | .hexLower => 'x'
  | .hexUpper => 'X'
  | .float => 'f'

def name : Conversion → String
  | .decimal => "DECIMAL"
  | .integer => "INTEGER"
  | .string => "STRING"
  | .object => "OBJECT"
  | .hexLower => "HEX_LOWER"
  | .hexUpper => "HEX_UPPER"
  | .float => "FLOAT"

def ofLetter? (c : Char) : Option Conversion := all.find? (·.letter == c)

def isInteger : Conversion → Bool
  | .decimal | .integer | .hexLower | .hexUpper => true
  | _ => false

def isText : Conversion → Bool
  | .string | .object => true
  | _ => false

/-- Whether the conversion turns its value into an integer first. -/
def truncates : Conversion → Bool
  | .decimal | .integer => true
  | _ => false

/-- The letter of a conversion in a replacement field that shows a number. -/
def fieldLetter : Conversion → Char
  | .integer => 'd'
  | c => c.letter

end Conversion

structure Directive where
  conversion : Conversion
  flag : Option String := none
  /-- The width as it is written, if there is one. -/
  width : Option String := none
  /-- The precision as it is written, without its point, if there is one. -/
  precision : Option String := none
  deriving DecidableEq, Repr

namespace Directive

def precisionText (d : Directive) : String :=
  match d.precision with
  | some digits => "." ++ digits
  | none => ""

/-- The directive as it is written in a catalog. -/
def source (d : Directive) : String :=
  "%" ++ d.flag.getD "" ++ d.width.getD "" ++ d.precisionText ++ d.conversion.letter.toString

/-- The expression that passes an argument to the directive's replacement field. -/
def argument (d : Directive) (expression : String) : String :=
  if d.conversion.truncates then "int(" ++ expression ++ ")" else expression

def dropZeros (width : String) : String := String.ofList (width.toList.dropWhile (· = '0'))

/-- The width of the replacement field. Zeros do not fill a field whose text stands at the left, nor
one that shows a text. -/
def fieldWidth (d : Directive) : String :=
  let width := d.width.getD ""
  if d.flag = some "-" ∨ d.conversion.isText then dropZeros width else width

/-- The alignment of the replacement field. A text stands at the right unless the flag says
otherwise. -/
def fieldAlign (d : Directive) : String :=
  if d.fieldWidth = "" then ""
  else if d.flag = some "-" then "<"
  else if d.conversion.isText then ">"
  else ""

def fieldSign (d : Directive) : String :=
  if d.flag = some "+" ∨ d.flag = some "#" then d.flag.getD "" else ""

/-- The specification of the replacement field. -/
def fieldSpec (d : Directive) : String :=
  if d.conversion.isText then d.fieldAlign ++ d.fieldWidth ++ d.precisionText
  else d.fieldAlign ++ d.fieldSign ++ d.fieldWidth ++ d.precisionText
    ++ d.conversion.fieldLetter.toString

def formatField (d : Directive) : String :=
  if d.conversion.isText then
    if d.fieldSpec = "" then (if d.conversion = .object then "\x7b\x7d" else "\x7b!s\x7d")
    else "\x7b!s:" ++ d.fieldSpec ++ "\x7d"
  else "\x7b:" ++ d.fieldSpec ++ "\x7d"

end Directive

inductive Segment
  /-- A run of text, as it is written and as it is shown. -/
  | literal (source value : String)
  | directive (d : Directive)
  deriving DecidableEq, Repr

namespace Segment

/-- The part as it is written in a catalog. -/
def source : Segment → String
  | .literal source _ => source
  | .directive d => d.source

/-- A text with its braces doubled. -/
def doubleBraces (text : List Char) : List Char :=
  text.flatMap fun c => if c = '{' ∨ c = '}' then [c, c] else [c]

/-- The part as it is written in a format string. -/
def formatText : Segment → String
  | .literal _ value => String.ofList (doubleBraces value.toList)
  | .directive d => d.formatField

def directive? : Segment → Option Directive
  | .literal .. => none
  | .directive d => some d

/-- The text that the part shows without any value. -/
def literalValue : Segment → String
  | .literal _ value => value
  | .directive _ => ""

end Segment

/-- The text of a wording, cut into literal runs and directives. -/
structure Template where
  segments : List Segment
  deriving DecidableEq, Repr

namespace Template

def source (t : Template) : String := String.join (t.segments.map Segment.source)

def directives (t : Template) : List Directive := t.segments.filterMap Segment.directive?

/-- The number of values that the template takes. -/
def arity (t : Template) : Nat := t.directives.length

/-- The text of a template without directives. -/
def plainText (t : Template) : String := String.join (t.segments.map Segment.literalValue)

/-- The text of the template, which must have no directives. -/
def text (t : Template) : Except Invalid String :=
  if t.arity = 0 then .ok t.plainText else .error (.hasPlaceholders t.source t.arity)

/-- The template as a format string. -/
def formatString (t : Template) : String := String.join (t.segments.map Segment.formatText)

/-- The values with those of the directives that show an integer turned into one, in order. -/
def convert : List Directive → List Value → Except RenderError (List Value)
  | d :: ds, value :: values => do
    let value ← if d.conversion.truncates then value.truncate else pure value
    return value :: (← convert ds values)
  | _, _ => .ok []

def format (t : Template) (values : List Value) : Except RenderError String :=
  if values.length ≠ t.arity then .error (.argumentCount t.arity values.length)
  else do
    let values ← convert t.directives values
    Format.render t.formatString values

end Template

end Phrasebook
