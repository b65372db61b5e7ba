import Phrasebook.Catalog.Basic

/-!
# Generated modules

A generated module as a tree: a description, the locales and their constructors, and a function for
each message. A function chooses one of its bodies by the locale and either returns a text or fills
a format string with its arguments.
-/

namespace Phrasebook.Generated

/-- An argument of a formatting call: an argument of the function, by its position. -/
structure Argument where
  position : Nat
  /-- Whether the argument is turned into an integer. -/
  truncated : Bool
  deriving DecidableEq, Repr

/-- What a function returns. -/
inductive Body
  | plain (text : String)
  /-- A format string, filled with arguments. -/
  | filled (text : String) (arguments : List Argument)
  deriving DecidableEq, Repr

/-- The body for a language, possibly with a region. -/
structure Case where
  language : String
  /-- The region; a case without one matches every region. -/
  region : Option String
  body : Body
  deriving DecidableEq, Repr

structure Function where
  key : String
  identifier : String
  /-- The number of arguments behind the locale. -/
  arity : Nat
  /-- The cases in the order in which they are tried. -/
  cases : List Case
  /-- The body for a locale that no case matches. -/
  default : Body
  deriving DecidableEq, Repr

structure Constructor where
  name : String
  language : String
  deriving DecidableEq, Repr

structure Module where
  unit : String
  docstring : String
  exports : List String
  languages : List String
  /-- The regions, if the module reads and writes locales as text. -/
  regions : Option (List String)
  constructors : List Constructor
  /-- The locales, with their names where they are known. -/
  locales : List (Locale × Option String)
  default : Locale
  functions : List Function
  deriving DecidableEq, Repr

/-- The arguments of the directives of a template, the first of which has a position. -/
def argumentsFrom (position : Nat) : List Directive → List Argument
  | [] => []
  | d :: rest => ⟨position, d.conversion.truncates⟩ :: argumentsFrom (position + 1) rest

def Body.ofTemplate (t : Template) : Body :=
  if t.arity = 0 then .plain t.plainText
  else .filled t.formatString (argumentsFrom 0 t.directives)

def Case.ofArm (arm : Arm) : Case := ⟨arm.language, arm.region, .ofTemplate arm.template⟩

def Function.ofMessage (m : Message) (policy : Policy) : Function :=
  let dispatch := Dispatch.ofMessage m policy
  { key := m.key
    identifier := dispatch.identifier
    arity := dispatch.arity
    cases := dispatch.arms.map Case.ofArm
    default := .ofTemplate dispatch.default }

/-- The constructors for languages behind those already found. A language whose name for a
constructor is no name or is taken gets none. -/
def constructorsFor (found : List Constructor) : List String → List Constructor
  | [] => found
  | language :: rest =>
    let name := (Locale.mk language none).constructorName
    if Key.isName name && !(found.map Constructor.name).contains name then
      constructorsFor (found ++ [⟨name, language⟩]) rest
    else constructorsFor found rest

/-- The names that a module offers, in order. -/
def exportsOf (catalog : Catalog) (codec : Bool) : List String :=
  sortBy Text.precedes (["Lang", "ALL_LANGUAGES", "DEFAULT_LANG"] ++ catalog.identifiers
    ++ if codec then ["UnknownLocaleOnDecode"] else [])

/-- The locales of a set, each with its name if names are given and have one. -/
def describedLocales (locales : LocaleSet) (names : Option LocaleNames) :
    List (Locale × Option String) :=
  locales.locales.map fun l => (l, names.bind (l.displayName? ·))

/-- The names of locales for a module, if it is to describe its locales. -/
def namesFor (config : Config) (data : LocaleData) :
    Except LocaleDataAbsent (Option LocaleNames) :=
  if config.describeLocales then some <$> data.require "describe_locales" else .ok none

/-- The module of a catalog once its default locale and the names of its locales are known. -/
def Module.ofDefault (catalog : Catalog) (config : Config) (names : Option LocaleNames)
    (default : Locale) : Module where
  unit := config.indent
  docstring := config.docstring
  exports := exportsOf catalog config.emitCodec
  languages := catalog.locales.languages
  regions := if config.emitCodec then some catalog.locales.regions else none
  constructors := constructorsFor [] catalog.locales.languages
  locales := describedLocales catalog.locales names
  default := default
  functions := catalog.messages.map fun m => Function.ofMessage m catalog.fallback

/-- The module of a catalog, which must have a locale. Names of locales are demanded only if the
locales are to be described. -/
def Module.ofCatalog (catalog : Catalog) (config : Config) (data : LocaleData) :
    Except Error Module := do
  let names ← namesFor config data
  return Module.ofDefault catalog config names (← catalog.locales.default)

end Phrasebook.Generated
