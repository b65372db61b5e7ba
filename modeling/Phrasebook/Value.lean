import Phrasebook.Number.Fixed
import Phrasebook.Number.Shortest
import Phrasebook.Text.Quoted

/-!
# Values

The values that a template is rendered with, and their plain text. Inside a list a text is shown in
quotes. An integer has a text only up to a fixed number of digits.
-/

namespace Phrasebook

open Number

/-- A value for a directive of a template. -/
inductive Value
  | int (n : Int)
  | float (x : Binary64)
  | text (s : String)
  | bool (b : Bool)
  | absent
  | list (items : List Value)

/-- Why a value cannot be rendered. -/
inductive RenderError
  /-- The number of values differs from the number of directives. -/
  | argumentCount (expected given : Nat)
  /-- A replacement field has no value left. -/
  | missingArgument
  /-- The content of the value, or of the field, is not accepted. -/
  | unsuitableValue
  /-- Values of this kind are not accepted. -/
  | unsuitableKind
  | overflow
  /-- The conversion to integers is out of reach inside a generated module. -/
  | conversionHidden
  deriving DecidableEq, Repr

/-- The error in words, where a template itself reports it. -/
def RenderError.message? : RenderError → Option String
  | .argumentCount expected given =>
    some s!"template takes {expected} argument(s), {given} given"
  | _ => none

namespace Value

def integerText (n : Int) : Except RenderError (List Char) :=
  match decimalInt? n with
  | some digits => .ok digits
  | none => .error .unsuitableValue

mutual

/-- The plain text of a value. -/
def display : Value → Except RenderError (List Char)
  | .int n => integerText n
  | .float x => .ok x.text
  | .text s => .ok s.toList
  | .bool b => .ok (if b then "True".toList else "False".toList)
  | .absent => .ok "None".toList
  | .list items => do return '[' :: ((← displayItems items) ++ [']'])

/-- The texts of the items of a list, with commas between them. -/
def displayItems : List Value → Except RenderError (List Char)
  | [] => .ok []
  | [item] => displayItem item
  | item :: rest => do return (← displayItem item) ++ ", ".toList ++ (← displayItems rest)

def displayItem : Value → Except RenderError (List Char)
  | .text s => .ok (Text.quoted s).toList
  | .int n => integerText n
  | .float x => .ok x.text
  | .bool b => .ok (if b then "True".toList else "False".toList)
  | .absent => .ok "None".toList
  | .list items => do return '[' :: ((← displayItems items) ++ [']'])

end

/-- The integer that a value denotes: a text is read, a floating-point number loses its fraction. -/
def toInteger : Value → Except RenderError Int
  | .int n => .ok n
  | .bool b => .ok (if b then 1 else 0)
  | .text s =>
    match readInt? s with
    | some n => .ok n
    | none => .error .unsuitableValue
  | .float (.finite negative significand exponent) =>
    .ok (Binary64.truncate negative significand exponent)
  | .float (.infinite _) => .error .overflow
  | .float .nan => .error .unsuitableValue
  | .absent => .error .unsuitableKind
  | .list _ => .error .unsuitableKind

/-- A value turned into the integer that it denotes. -/
def truncate (value : Value) : Except RenderError Value := .int <$> value.toInteger

end Value

end Phrasebook
