import Phrasebook.Invalid

/-!
# Diagnostics

A diagnostic says what is wrong, where, and how to mend it. Its code has a name and a number; the
thousands of the number tell faults of a source, of a catalog, of a caller and of a locale text
apart.
-/

namespace Phrasebook

/-- A place in a source, or a whole source. -/
structure Span where
  source : String
  /-- The line, counted from one; nothing for the whole source. -/
  line : Option Nat := none
  deriving DecidableEq, Repr

/-- The place of a line, which must be at least one. -/
def Span.atLine (source : String) (line : Int) : Except Invalid Span :=
  if line < 1 then .error (.line line) else .ok ⟨source, some line.toNat⟩

def Span.text (span : Span) : String :=
  match span.line with
  | none => span.source
  | some line => s!"{span.source}:{line}"

namespace Diagnostic

inductive Code
  | keyValueOutsideSection
  | sourceUnreadable
  | localeTagInvalid
  | placeholderUnsupported
  | keyNotIdentifier
  | catalogEmpty
  | sectionEmpty
  | keyCollision
  | placeholderMismatch
  | wordingMissing
  | keyUnresolved
  | referenceSourceUnreadable
  | localeUnknownLanguage
  | localeUnknownRegion
  deriving DecidableEq, Repr

namespace Code

/-- The codes in the order of their numbers. -/
def all : List Code :=
  [.keyValueOutsideSection, .sourceUnreadable, .localeTagInvalid, .placeholderUnsupported,
    .keyNotIdentifier, .catalogEmpty, .sectionEmpty, .keyCollision, .placeholderMismatch,
    .wordingMissing, .keyUnresolved, .referenceSourceUnreadable, .localeUnknownLanguage,
    .localeUnknownRegion]

def name : Code → String
  | .keyValueOutsideSection => "KEY_VALUE_OUTSIDE_SECTION"
  | .sourceUnreadable => "SOURCE_UNREADABLE"
  | .localeTagInvalid => "LOCALE_TAG_INVALID"
  | .placeholderUnsupported => "PLACEHOLDER_UNSUPPORTED"
  | .keyNotIdentifier => "KEY_NOT_IDENTIFIER"
  | .catalogEmpty => "CATALOG_EMPTY"
  | .sectionEmpty => "SECTION_EMPTY"
  | .keyCollision => "KEY_COLLISION"
  | .placeholderMismatch => "PLACEHOLDER_MISMATCH"
  | .wordingMissing => "TRANSLATION_MISSING"
  | .keyUnresolved => "KEY_UNRESOLVED"
  | .referenceSourceUnreadable => "REFERENCE_SOURCE_UNREADABLE"
  | .localeUnknownLanguage => "LOCALE_UNKNOWN_LANGUAGE"
  | .localeUnknownRegion => "LOCALE_UNKNOWN_REGION"

def number : Code → Nat
  | .keyValueOutsideSection => 1001
  | .sourceUnreadable => 1002
  | .localeTagInvalid => 1003
  | .placeholderUnsupported => 1004
  | .keyNotIdentifier => 1005
  | .catalogEmpty => 1006
  | .sectionEmpty => 1007
  | .keyCollision => 2001
  | .placeholderMismatch => 2002
  | .wordingMissing => 2003
  | .keyUnresolved => 3001
  | .referenceSourceUnreadable => 3002
  | .localeUnknownLanguage => 4001
  | .localeUnknownRegion => 4002

def ofName? (name : String) : Option Code := all.find? (·.name == name)

end Code

/-- How grave a diagnostic is. -/
inductive Severity
  | error
  | warning
  deriving DecidableEq, Repr

def Severity.name : Severity → String
  | .error => "error"
  | .warning => "warning"

end Diagnostic

/-- What is wrong, where, and how to mend it. -/
structure Diagnostic where
  code : Diagnostic.Code
  message : String
  /-- Where it is, if there is a single place. -/
  span : Option Span := none
  hint : Option String := none
  severity : Diagnostic.Severity := .error
  deriving DecidableEq, Repr

end Phrasebook
