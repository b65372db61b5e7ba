import Phrasebook.Diagnostic.Basic

/-!
# Layouts of diagnostics

A diagnostic is printed on several lines with its place and hint marked, on a single line, or as a
JSON record. An empty hint counts as none. Several diagnostics are separated by an empty line.
-/

namespace Phrasebook.Diagnostic

inductive Layout
  /-- The severity and the message, then the place and the hint on lines of their own. -/
  | annotated
  | simple
  | json
  deriving DecidableEq, Repr

def Layout.all : List Layout := [.annotated, .simple, .json]

def Layout.name : Layout → String
  | .annotated => "rust"
  | .simple => "simple"
  | .json => "json"

def Layout.ofName? (name : String) : Option Layout := Layout.all.find? (·.name == name)

/-- A word between the codes that make a terminal print it bold in a colour. -/
def coloured (severity : Severity) : String :=
  let colour := match severity with
    | .error => "\x1b[1;31m"
    | .warning => "\x1b[1;33m"
  colour ++ severity.name ++ "\x1b[0m"

/-- The hint, unless it is empty. -/
def shownHint (d : Diagnostic) : Option String := d.hint.filter (· != "")

def annotatedLines (d : Diagnostic) (colour : Bool) : List String :=
  let severity := if colour then coloured d.severity else d.severity.name
  [severity ++ "[" ++ d.code.name ++ "]: " ++ d.message]
    ++ (d.span.map fun span => "  --> " ++ span.text).toList
    ++ ((shownHint d).map fun hint => "  = help: " ++ hint).toList

def simpleLine (d : Diagnostic) : String :=
  match d.span with
  | some span => d.code.name ++ ": " ++ span.text ++ ": " ++ d.message
  | none => d.code.name ++ ": " ++ d.message

def jsonChar (c : Char) : List Char :=
  if c = '"' ∨ c = '\\' then ['\\', c]
  else if c = '\n' then ['\\', 'n']
  else if c = '\r' then ['\\', 'r']
  else if c = '\t' then ['\\', 't']
  else if c = '\x08' then ['\\', 'b']
  else if c = '\x0c' then ['\\', 'f']
  else if c.toNat < 0x20 then '\\' :: 'u' :: Text.hexDigits 4 c.toNat
  else [c]

def jsonString (text : String) : String :=
  String.ofList ('"' :: (text.toList.flatMap jsonChar ++ ['"']))

/-- The members of the JSON record, in order, each with its value as JSON text. -/
def jsonMembers (d : Diagnostic) : List (String × String) :=
  [("code", jsonString d.code.name), ("code_value", toString d.code.number),
    ("message", jsonString d.message), ("severity", jsonString d.severity.name)]
    ++ (match d.span with
      | some span =>
        [("source", jsonString span.source),
          ("line", match span.line with
            | some line => toString line
            | none => "null")]
      | none => [])
    ++ ((shownHint d).map fun hint => ("hint", jsonString hint)).toList

def jsonRecord (d : Diagnostic) : String :=
  "\x7b" ++ ", ".intercalate ((jsonMembers d).map fun m => jsonString m.1 ++ ": " ++ m.2)
    ++ "\x7d"

/-- A diagnostic in a layout. Only the annotated layout has colours. -/
def render (d : Diagnostic) (layout : Layout) (colour : Bool) : String :=
  match layout with
  | .annotated => "\n".intercalate (annotatedLines d colour)
  | .simple => simpleLine d
  | .json => jsonRecord d

/-- Diagnostics in a layout, separated by empty lines. -/
def renderAll (ds : List Diagnostic) (layout : Layout) (colour : Bool) : String :=
  "\n\n".intercalate (ds.map (render · layout colour))

/-- The text under which a fault is reported: the annotated layout without colours. -/
def report (d : Diagnostic) : String := render d .annotated false

end Phrasebook.Diagnostic
