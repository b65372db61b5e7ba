import Phrasebook.Error
import Phrasebook.Locale.Set
import Phrasebook.Section.Basic
import Phrasebook.Template.Parse

/-!
# Messages

A message is what a section becomes: the key, the identifier made from it, and the parsed
wordings in the order of the section. There is always a first wording, and all of them take
as many values as the first one.
-/

namespace Phrasebook

/-- What a message says in one locale. -/
structure Wording where
  locale : Locale
  /-- The text, cut into literal runs and directives. -/
  template : Template
  span : Option Span := none
  deriving DecidableEq, Repr

def Wording.ofEntry (entry : Entry) : Except Error Wording := do
  let span ← entry.span
  let locale ← Locale.ofTag entry.tag (some span)
  let template ← Template.ofText entry.text (some span)
  return ⟨locale, template, some span⟩

/-- The wordings of a key. -/
structure Message where
  key : String
  identifier : String
  first : Wording
  rest : List Wording
  deriving DecidableEq, Repr

namespace Message

/-- A message with the wordings of a list, which must not be empty. -/
def ofList (key identifier : String) : List Wording → Except Invalid Message
  | [] => .error (.noWordings key)
  | first :: rest => .ok ⟨key, identifier, first, rest⟩

def wordings (m : Message) : List Wording := m.first :: m.rest

/-- The number of values that every wording takes. -/
def arity (m : Message) : Nat := m.first.template.arity

def locales (m : Message) : List Locale := m.wordings.map Wording.locale

def languages (m : Message) : List String :=
  Text.sortedDistinct (m.locales.map Locale.language)

/-- The wording that an entry of a key holds, which must take a number of values. -/
def wordingOf (key : String) (arity : Nat) (entry : Entry) : Except Error Wording := do
  let wording ← Wording.ofEntry entry
  if wording.template.arity = arity then return wording
  else
    throw (.fault (.placeholderMismatch key arity wording.template.arity entry.tag
      wording.span))

def ofSection (s : Section) : Except Error Message :=
  match s.entries with
  | [] => .error (.fault (.sectionEmpty s.key))
  | first :: rest => do
    let span ← first.span
    let identifier := Key.identifier s.key
    Key.validate identifier s.key (some span)
    let first ← Wording.ofEntry first
    let rest ← rest.mapM (wordingOf s.key first.template.arity)
    return ⟨s.key, identifier, first, rest⟩

/-- The wordings of entries behind those already found, each of which takes as many values as the
first one. -/
def wordingsAfter (key : String) (found : List Wording) : List Entry → Except Error (List Wording)
  | [] => .ok found
  | e :: rest => do
    let w ← Wording.ofEntry e
    match found.head? with
    | none => wordingsAfter key (found ++ [w]) rest
    | some first =>
      if w.template.arity = first.template.arity then wordingsAfter key (found ++ [w]) rest
      else
        throw (.fault (.placeholderMismatch key first.template.arity w.template.arity e.tag w.span))

/-- The message of a section, made from the list of its wordings, which is checked for being
empty. -/
def ofSectionChecked (s : Section) : Except Error Message :=
  match s.entries with
  | [] => .error (.fault (.sectionEmpty s.key))
  | first :: _ => do
    let span ← first.span
    let identifier := Key.identifier s.key
    Key.validate identifier s.key (some span)
    let wordings ← wordingsAfter s.key [] s.entries
    ofList s.key identifier wordings

end Message

end Phrasebook
