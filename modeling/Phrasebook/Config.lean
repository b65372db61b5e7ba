import Phrasebook.Invalid

/-!
# Options of a compilation

Options have defaults. The indentation and the description of the generated module are checked so
that the module is well formed.
-/

namespace Phrasebook

/-- How a locale without a wording of its own is served. -/
inductive Policy
  /-- By the language alone, else by the first wording. -/
  | firstListed
  /-- By the language alone, else by its first region, else by the first wording. -/
  | sameLanguage
  deriving DecidableEq, Repr

namespace Policy

def all : List Policy := [.firstListed, .sameLanguage]

def name : Policy → String
  | .firstListed => "first-listed"
  | .sameLanguage => "same-language"

def ofName? (name : String) : Option Policy := all.find? (·.name == name)

end Policy

structure Config where
  fallback : Policy := .firstListed
  /-- Whether every key must have every language of the catalog. -/
  requireAllLanguages : Bool := true
  /-- Whether the module reads and writes locales as text. -/
  emitCodec : Bool := false
  /-- Whether the list of locales of the module is annotated with their names. -/
  describeLocales : Bool := false
  indent : String := "    "
  docstring : String := "Translations compiled from Twine INI catalogs."
  deriving DecidableEq, Repr

namespace Config

/-- Whether a text consists of spaces and tabulators and is not empty. -/
def isIndent (text : String) : Bool :=
  !text.toList.isEmpty && text.toList.all fun c => c == ' ' || c == '\t'

/-- Whether three quotation marks follow one another in a text. -/
def hasTripleQuote : List Char → Bool
  | [] => false
  | c :: rest => (c :: rest).take 3 == ['"', '"', '"'] || hasTripleQuote rest

/-- Whether a text can stand between triple quotation marks: it holds none, and no mark or backslash
at its end runs into the closing ones. -/
def isDocstring (text : String) : Bool :=
  !hasTripleQuote text.toList &&
    match text.toList.getLast? with
    | some c => c != '"' && c != '\\'
    | none => true

/-- The options, if a module can be generated with them. -/
def validate (config : Config) : Except Invalid Config :=
  if !isIndent config.indent then .error (.indent config.indent)
  else if !isDocstring config.docstring then .error .docstring
  else .ok config

end Config

end Phrasebook
