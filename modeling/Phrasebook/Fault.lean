import Phrasebook.Diagnostic.Layout
import Phrasebook.Text.Utf8

/-!
# Faults

Everything that can be wrong with a catalog, with the caller of a generated module, or with the text
of a locale, by its cause. Each fault has a diagnostic, and each belongs to one category.
-/

namespace Phrasebook

/-- Why a source cannot be read. -/
inductive ReadFailure
  | notFound (path : String)
  | isDirectory (path : String)
  /-- A file stands where the path needs a directory. -/
  | notDirectory (path : String)
  /-- A stream failed with a text of its own. -/
  | stream (reason : String)
  | undecodable (refusal : Text.Utf8Refusal)
  deriving DecidableEq, Repr

def ReadFailure.message : ReadFailure → String
  | .notFound path => "[Errno 2] No such file or directory: " ++ Text.quoted path
  | .isDirectory path => "[Errno 21] Is a directory: " ++ Text.quoted path
  | .notDirectory path => "[Errno 20] Not a directory: " ++ Text.quoted path
  | .stream reason => reason
  | .undecodable r =>
    if r.length = 1 then
      "'utf-8' codec can't decode byte 0x" ++ String.ofList (Text.hexDigits 2 r.byte.toNat)
        ++ s!" in position {r.position}: " ++ r.reason.message
    else
      let last := r.position + r.length - 1
      s!"'utf-8' codec can't decode bytes in position {r.position}-{last}: " ++ r.reason.message

inductive Fault
  | keyValueOutsideSection (source : String) (line : Nat)
  | sourceUnreadable (source : String) (failure : ReadFailure)
  /-- A locale tag has another form than `language` or `language-region`. -/
  | localeTagInvalid (tag : String) (span : Option Span)
  /-- A directive has no replacement field. -/
  | placeholderUnsupported (placeholder reason : String) (span : Option Span)
  /-- A key gives no identifier that a module can define. -/
  | keyNotIdentifier (key identifier : String) (span : Option Span)
  | catalogEmpty
  | sectionEmpty (key : String)
  | keyCollision (identifier first second : String)
  /-- A wording takes another number of values than the first one of its key. -/
  | placeholderMismatch (key : String) (expected found : Int) (tag : String) (span : Option Span)
  /-- A key lacks languages that the catalog has elsewhere. -/
  | wordingMissing (key : String) (languages : List String)
  /-- Names that the catalog does not define are used. -/
  | keyUnresolved (names : List String) (span : Option Span)
  | referenceSourceUnreadable (source : String) (failure : ReadFailure)
  | localeUnknownLanguage (value language : String)
  | localeUnknownRegion (value region : String)
  deriving DecidableEq, Repr

namespace Fault

/-- Names in apostrophes, separated by commas. -/
def quoteAll (names : List String) : String :=
  ", ".intercalate (names.map fun name => s!"'{name}'")

def code : Fault → Diagnostic.Code
  | .keyValueOutsideSection .. => .keyValueOutsideSection
  | .sourceUnreadable .. => .sourceUnreadable
  | .localeTagInvalid .. => .localeTagInvalid
  | .placeholderUnsupported .. => .placeholderUnsupported
  | .keyNotIdentifier .. => .keyNotIdentifier
  | .catalogEmpty => .catalogEmpty
  | .sectionEmpty .. => .sectionEmpty
  | .keyCollision .. => .keyCollision
  | .placeholderMismatch .. => .placeholderMismatch
  | .wordingMissing .. => .wordingMissing
  | .keyUnresolved .. => .keyUnresolved
  | .referenceSourceUnreadable .. => .referenceSourceUnreadable
  | .localeUnknownLanguage .. => .localeUnknownLanguage
  | .localeUnknownRegion .. => .localeUnknownRegion

def message : Fault → String
  | .keyValueOutsideSection _ line => s!"Key-value line outside of any section at line {line}"
  | .sourceUnreadable source failure =>
    s!"Could not read catalog source '{source}': " ++ failure.message
  | .localeTagInvalid tag _ => s!"Malformed locale tag '{tag}'"
  | .placeholderUnsupported placeholder reason _ =>
    s!"Unsupported placeholder '{placeholder}': {reason}"
  | .keyNotIdentifier key identifier _ =>
    s!"Key '{key}' normalizes to '{identifier}', which is not a valid identifier"
  | .catalogEmpty => "Catalog contains no translations"
  | .sectionEmpty key => s!"Section [{key}] has no translations"
  | .keyCollision identifier first second =>
    s!"Keys '{first}' and '{second}' both normalize to '{identifier}'"
  | .placeholderMismatch key expected found tag _ =>
    s!"Translation '{tag}' of key '{key}' has {found} placeholder(s), expected {expected}"
  | .wordingMissing key languages =>
    s!"Key '{key}' has no translation for " ++ quoteAll languages
  | .keyUnresolved names _ =>
    "Unresolved translation " ++ (if names.length = 1 then "key " else "keys ") ++ quoteAll names
  | .referenceSourceUnreadable source failure =>
    s!"Could not read source '{source}' for reference checking: " ++ failure.message
  | .localeUnknownLanguage value language => s!"Unknown language '{language}' in locale '{value}'"
  | .localeUnknownRegion value region => s!"Unknown region '{region}' in locale '{value}'"

def span : Fault → Option Span
  | .keyValueOutsideSection source line => some ⟨source, some line⟩
  | .sourceUnreadable source _ => some ⟨source, none⟩
  | .localeTagInvalid _ span => span
  | .placeholderUnsupported _ _ span => span
  | .keyNotIdentifier _ _ span => span
  | .placeholderMismatch _ _ _ _ span => span
  | .keyUnresolved _ span => span
  | .referenceSourceUnreadable source _ => some ⟨source, none⟩
  | _ => none

/-- How to mend a fault of a kind. -/
def hint : Diagnostic.Code → String
  | .keyValueOutsideSection => "Add a [section] header before the first translation"
  | .sourceUnreadable => "Catalog sources must be readable UTF-8 text"
  | .localeTagInvalid =>
    "Use a language code optionally followed by a region, e.g. 'en' or 'en-gb'"
  | .placeholderUnsupported => "Pad integers with a zero-prefixed width instead, e.g. '%03d'"
  | .keyNotIdentifier => "Start keys with a letter and avoid Python keywords"
  | .catalogEmpty => "At least one [section] with one 'locale = text' line is required"
  | .sectionEmpty => "Add at least one 'locale = text' line or remove the section"
  | .keyCollision => "Rename one of the sections"
  | .placeholderMismatch => "Every translation of a key must take the same arguments"
  | .wordingMissing => "All keys must provide every language of the catalog"
  | .keyUnresolved => "Check the key spelling or add the section to the catalog"
  | .referenceSourceUnreadable => "Reference checking reads caller files as UTF-8 Python source"
  | .localeUnknownLanguage => "Expected an existing language"
  | .localeUnknownRegion => "Expected an existing region"

def diagnostic (fault : Fault) : Diagnostic :=
  { code := fault.code
    message := fault.message
    span := fault.span
    hint := some (hint fault.code) }

/-- The failure of reading that a fault came from. -/
def cause : Fault → Option ReadFailure
  | .sourceUnreadable _ failure => some failure
  | .referenceSourceUnreadable _ failure => some failure
  | _ => none

inductive Category
  | general
  | malformedCatalog
  | malformedLocaleTag
  | malformedPlaceholder
  | keyCollision
  | placeholderMismatch
  | missingWording
  | unresolvedKey
  | referenceSource
  | unknownLocale
  deriving DecidableEq, Repr

namespace Category

def all : List Category :=
  [.general, .malformedCatalog, .malformedLocaleTag, .malformedPlaceholder, .keyCollision,
    .placeholderMismatch, .missingWording, .unresolvedKey, .referenceSource, .unknownLocale]

def name : Category → String
  | .general => "TwineError"
  | .malformedCatalog => "MalformedCatalogError"
  | .malformedLocaleTag => "MalformedLocaleTagError"
  | .malformedPlaceholder => "MalformedPlaceholderError"
  | .keyCollision => "KeyCollisionError"
  | .placeholderMismatch => "PlaceholderMismatchError"
  | .missingWording => "MissingTranslationError"
  | .unresolvedKey => "UnresolvedKeyError"
  | .referenceSource => "ReferenceSourceError"
  | .unknownLocale => "UnknownLocaleOnDecodeError"

/-- The names of a category and of all wider ones, the narrowest first. -/
def lineage (category : Category) : List String :=
  let narrow := if category = .general then [] else [category.name]
  let middle := if category = .unknownLocale then ["ValueError"] else []
  narrow ++ Category.general.name :: (middle ++ ["Exception", "BaseException"])

def ofName? (name : String) : Option Category := all.find? (·.name == name)

end Category

def category (fault : Fault) : Category :=
  match fault.code with
  | .keyValueOutsideSection => .malformedCatalog
  | .sourceUnreadable => .malformedCatalog
  | .localeTagInvalid => .malformedLocaleTag
  | .placeholderUnsupported => .malformedPlaceholder
  | .keyNotIdentifier => .malformedCatalog
  | .catalogEmpty => .malformedCatalog
  | .sectionEmpty => .malformedCatalog
  | .keyCollision => .keyCollision
  | .placeholderMismatch => .placeholderMismatch
  | .wordingMissing => .missingWording
  | .keyUnresolved => .unresolvedKey
  | .referenceSourceUnreadable => .referenceSource
  | .localeUnknownLanguage => .unknownLocale
  | .localeUnknownRegion => .unknownLocale

end Fault

end Phrasebook
