import Phrasebook.Locale.Set

/-!
# Names of locales

English names of locales after the Common Locale Data Repository. The data comes from outside, as a
function from locales to names, or it is absent, and then a feature that needs it cannot be used.
-/

namespace Phrasebook

/-- The names of locales by language and by region, which is in upper case. There is nothing for a
locale that is not listed, and a listed locale may be without a name. -/
abbrev LocaleNames := String → Option String → Option (Option String)

/-- Names of locales, which an installation may lack. -/
inductive LocaleData
  | available (names : LocaleNames)
  | absent

/-- A feature was asked for that needs the names of locales, and they are absent. -/
structure LocaleDataAbsent where
  feature : String
  deriving DecidableEq, Repr

def LocaleDataAbsent.message (e : LocaleDataAbsent) : String :=
  e.feature ++ " requires Babel for CLDR locale data. Install with: pip install twinegen[babel]"

namespace Locale

/-- The region by which the data lists a locale. -/
def dataRegion? (locale : Locale) : Option String := locale.region.map Text.upper

/-- The name by which the data would list a locale: a low line stands in front of the region. -/
def dataName (locale : Locale) : String :=
  match locale.dataRegion? with
  | none | some "" => locale.language
  | some region => locale.language ++ "_" ++ region

def isListed (names : LocaleNames) (locale : Locale) : Bool :=
  (names locale.language locale.dataRegion?).isSome

/-- The English name of a locale, if there is one. -/
def displayName? (names : LocaleNames) (locale : Locale) : Option String :=
  (names locale.language locale.dataRegion?).join

end Locale

namespace LocaleData

def isAvailable : LocaleData → Bool
  | available _ => true
  | absent => false

/-- The names of locales, which a feature demands. -/
def require (data : LocaleData) (feature : String) : Except LocaleDataAbsent LocaleNames :=
  match data with
  | available names => .ok names
  | absent => .error ⟨feature⟩

def describe (data : LocaleData) (locale : Locale) : Except LocaleDataAbsent (Option String) := do
  return locale.displayName? (← data.require "get_locale_class")

def describeAll (data : LocaleData) (set : LocaleSet) :
    Except LocaleDataAbsent (List (Locale × Option String)) :=
  set.locales.mapM fun locale => do return (locale, ← data.describe locale)

end LocaleData

end Phrasebook
