import Phrasebook.Locale.Set

/-!
# Locales as text

A locale of a catalog is written `language` or `language_REGION`, and read in any case. Languages
may hold low lines, regions may not: a text that is a language as a whole is read as that language,
any other text is cut at its last low line.
-/

namespace Phrasebook

structure LocaleCodec where
  languages : List String
  regions : List String
  deriving DecidableEq, Repr

namespace LocaleCodec

/-- The codec for the locales of a set, whose regions must not hold a low line. -/
def ofSet (set : LocaleSet) : Except Invalid LocaleCodec :=
  match set.regions.find? fun region => region.toList.contains '_' with
  | some region => .error (.regionSeparator region)
  | none => .ok ⟨set.languages, set.regions⟩

/-- The text of a locale. An empty region counts as none. -/
def encode (locale : Locale) : String :=
  match locale.region.filter (· != "") with
  | none => locale.language
  | some region => locale.language ++ "_" ++ Text.upper region

/-- A text cut at its last low line; a text without one is a language without a region. -/
def splitRegion (text : String) : String × String :=
  match Text.splitLast? '_' text.toList with
  | some (language, region) => (String.ofList language, String.ofList region)
  | none => (text, "")

/-- The region that a text names, with the empty one standing for none. -/
def regionOf (text : String) : Option String := if text = "" then none else some text

/-- The locale that a text denotes. An unknown region is reported before an unknown language. -/
def decode (codec : LocaleCodec) (value : String) : Except Fault Locale :=
  let lowered := Text.lower value
  if codec.languages.contains lowered then .ok ⟨lowered, none⟩
  else
    let (language, region) := splitRegion lowered
    if region ≠ "" ∧ !codec.regions.contains region then
      .error (.localeUnknownRegion value region)
    else if !codec.languages.contains language then
      .error (.localeUnknownLanguage value language)
    else .ok ⟨language, regionOf region⟩

end LocaleCodec

end Phrasebook
