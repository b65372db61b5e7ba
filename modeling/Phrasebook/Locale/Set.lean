import Phrasebook.Locale.Basic
import Phrasebook.Text.Order

/-!
# Sets of locales

The locales of a catalog, in order and without repetitions. The first one is the default.
-/

namespace Phrasebook

/-- Locales in order, without repetitions. -/
structure LocaleSet where
  locales : List Locale
  deriving DecidableEq, Repr

namespace LocaleSet

def ofList (locales : List Locale) : LocaleSet := ⟨sortBy Locale.le locales.eraseDups⟩

def contains (set : LocaleSet) (locale : Locale) : Bool := set.locales.contains locale

def size (set : LocaleSet) : Nat := set.locales.length

/-- The first locale of the set. -/
def default (set : LocaleSet) : Except Invalid Locale :=
  match set.locales with
  | [] => .error .noDefaultLocale
  | locale :: _ => .ok locale

def languages (set : LocaleSet) : List String :=
  Text.sortedDistinct (set.locales.map (·.language))

/-- The regions of the locales of any language, in order. -/
def regions (set : LocaleSet) : List String :=
  Text.sortedDistinct (set.locales.filterMap (·.region))

end LocaleSet

end Phrasebook
