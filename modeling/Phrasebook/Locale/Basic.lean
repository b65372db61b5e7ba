import Phrasebook.Key

/-!
# Locales

A locale is a language, possibly with a region. Its tag is written `language` or `language-region`:
the language in letters, digits and low lines of Basic Latin, the region in letters and digits, both
in any case. Locales are ordered by language; the language alone comes before its regions.
-/

namespace Phrasebook

/-- A language, possibly with a region. -/
structure Locale where
  language : String
  region : Option String := none
  deriving DecidableEq, Repr

namespace Locale

def tag (locale : Locale) : String :=
  match locale.region with
  | none => locale.language
  | some region => locale.language ++ "-" ++ region

/-- The parts by which locales are ordered: the language, whether there is a region, the region. -/
def sortKey (locale : Locale) : String × Bool × String :=
  (locale.language, locale.region.isSome, locale.region.getD "")

def lt (a b : Locale) : Bool :=
  let (language, hasRegion, region) := a.sortKey
  let (language', hasRegion', region') := b.sortKey
  language < language' ||
    (language == language' &&
      (hasRegion < hasRegion' || (hasRegion == hasRegion' && region < region')))

def le (a b : Locale) : Bool := !lt b a

def gt (a b : Locale) : Bool := lt b a

def ge (a b : Locale) : Bool := le b a

/-- The language as the name of a constructor. -/
def constructorName (locale : Locale) : String := Key.camel locale.language

def isLanguageChar (c : Char) : Bool := c.isAlphanum || c == '_'

def lowerPlain (text : List Char) : String := String.ofList (text.map Char.toLower)

/-- The locale that a tag denotes. -/
def ofTag? (tag : String) : Option Locale :=
  let language := tag.toList.takeWhile isLanguageChar
  if language.isEmpty then none
  else match tag.toList.dropWhile isLanguageChar with
    | [] => some ⟨lowerPlain language, none⟩
    | '-' :: region =>
      if !region.isEmpty && region.all Char.isAlphanum then
        some ⟨lowerPlain language, some (lowerPlain region)⟩
      else none
    | _ => none

def ofTag (tag : String) (span : Option Span := none) : Except Fault Locale :=
  match ofTag? tag with
  | some locale => .ok locale
  | none => .error (.localeTagInvalid tag span)

end Locale

end Phrasebook
