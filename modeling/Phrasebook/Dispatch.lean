import Phrasebook.Catalog.Message
import Phrasebook.Config

/-!
# Dispatch

Which wording of a message serves a locale. The arms of a message are tried in order: by
language, and inside a language the regions before the language alone. The first wording serves
a locale that no arm matches.
-/

namespace Phrasebook

/-- A language, possibly with a region, and the template for it. -/
structure Arm where
  language : String
  /-- The region; an arm without one matches every region. -/
  region : Option String
  template : Template
  deriving DecidableEq, Repr

namespace Arm

def ofWording (t : Wording) : Arm := ⟨t.locale.language, t.locale.region, t.template⟩

def locale (arm : Arm) : Locale := ⟨arm.language, arm.region⟩

def fits (arm : Arm) (locale : Locale) : Bool :=
  locale.language == arm.language && (arm.region.isNone || arm.region == locale.region)

/-- Whether an arm may stand before another: by language, then regions before their absence. -/
def precedes (a b : Arm) : Bool :=
  a.language < b.language ||
    (a.language == b.language && (a.region.isSome || b.region.isNone))

/-- Arms without a region for the languages of a list that are not yet covered, each with the
template of the first arm of its language. -/
def baselines (covered : List String) : List Arm → List Arm
  | [] => []
  | arm :: rest =>
    if covered.contains arm.language then baselines covered rest
    else ⟨arm.language, none, arm.template⟩ :: baselines (arm.language :: covered) rest

/-- The arms of a list whose locale did not come up before. -/
def reachable (seen : List Locale) : List Arm → List Arm
  | [] => []
  | arm :: rest =>
    if seen.contains arm.locale then reachable seen rest
    else arm :: reachable (arm.locale :: seen) rest

def unreachable (seen : List Locale) : List Arm → List Arm
  | [] => []
  | arm :: rest =>
    if seen.contains arm.locale then arm :: unreachable seen rest
    else unreachable (arm.locale :: seen) rest

end Arm

/-- The arms of a message in the order in which they are tried. -/
structure Dispatch where
  identifier : String
  arity : Nat
  arms : List Arm
  /-- The template for a locale that no arm matches. -/
  default : Template
  deriving DecidableEq, Repr

namespace Dispatch

/-- The arms that a policy gives to a message, in the order of its wordings. -/
def candidates (m : Message) (policy : Policy) : List Arm :=
  let arms := m.wordings.map Arm.ofWording
  match policy with
  | .firstListed => arms
  | .sameLanguage =>
    arms ++ Arm.baselines ((arms.filter (·.region.isNone)).map Arm.language) arms

/-- The arms of a message in order, with repetitions. -/
def sortedCandidates (m : Message) (policy : Policy) : List Arm :=
  sortBy Arm.precedes (candidates m policy)

def ofMessage (m : Message) (policy : Policy) : Dispatch :=
  { identifier := m.identifier
    arity := m.arity
    arms := Arm.reachable [] (sortedCandidates m policy)
    default := m.first.template }

/-- The template that serves a locale. -/
def select (d : Dispatch) (locale : Locale) : Template :=
  match d.arms.find? (·.fits locale) with
  | some arm => arm.template
  | none => d.default

end Dispatch

end Phrasebook
