import Phrasebook.Build
import Phrasebook.Caller.Reference
import Phrasebook.Journal.Event

/-!
# Recorded events

The events that each operation records, in order. An operation that ends with an error has recorded
the events up to that point. Nothing depends on these records.
-/

namespace Phrasebook.Journal

def ofReading (label : String) : Except Fault Sections → List Event
  | .ok sections => [.sectionsRead sections.length label]
  | .error _ => []

def read (store : Store) (source : Source) (name : Option String := none) : List Event :=
  ofReading (source.label name) (source.read store name)

/-- The events of reading each source of a list up to the first one that fails. -/
def readEach (store : Store) (position : Nat) : List Source → List Event
  | [] => []
  | source :: rest =>
    match read store source (source.numberedName position) with
    | [] => []
    | events => events ++ readEach store (position + 1) rest

def merge (catalogs : List Sections) : List Event :=
  (Sections.replacedKeys catalogs).map .sectionReplaced

def readAll (store : Store) (sources : List Source) : List Event :=
  readEach store 1 sources ++
    match Source.readEach store 1 sources with
    | .ok catalogs => merge catalogs
    | .error _ => []

def compile (sections : Sections) (config : Config) : List Event :=
  match Catalog.compile sections config with
  | .ok catalog =>
    let default := (catalog.locales.locales.head?.map Locale.tag).getD ""
    [.catalogCompiled catalog.messages.length catalog.locales.size default]
  | .error _ => []

def load (store : Store) (sources : List Source) (config : Config) : List Event :=
  readAll store sources ++
    match Source.readAll store sources with
    | .ok sections => compile sections config
    | .error _ => []

/-- The events of putting the wordings of a message in order. -/
def dispatch (m : Message) (policy : Policy) : List Event :=
  (Arm.unreachable [] (Dispatch.sortedCandidates m policy)).map fun arm =>
    .wordingUnreachable arm.language arm.region m.key

def dispatchName (catalog : Catalog) (name : String) : List Event :=
  match catalog.get? name with
  | some m => dispatch m catalog.fallback
  | none => []

def describe (data : LocaleData) (l : Locale) : List Event :=
  match data with
  | .available names => if l.isListed names then [] else [.localeUnlisted l.tag l.dataName]
  | .absent => []

def describeAll (data : LocaleData) (set : LocaleSet) : List Event :=
  set.locales.flatMap fun l => describe data l ++
    match data.describe l with
    | .ok none => [.localeUnnamed l.tag]
    | _ => []

/-- The events of naming constructors for languages behind those already found. -/
def constructors (found : List Generated.Constructor) : List String → List Event
  | [] => []
  | language :: rest =>
    let name := (Locale.mk language none).constructorName
    if !Key.isName name then
      .constructorOmitted language name :: constructors found rest
    else match found.find? (·.name == name) with
      | some other => .constructorShared other.language language name :: constructors found rest
      | none => constructors (found ++ [⟨name, language⟩]) rest

/-- The events of writing the module of a catalog. -/
def generate (catalog : Catalog) (config : Config) (data : LocaleData) : List Event :=
  match Generated.Module.ofCatalog catalog config data with
  | .error _ => []
  | .ok _ =>
    (if config.describeLocales then describeAll data catalog.locales else [])
      ++ constructors [] catalog.locales.languages
      ++ catalog.messages.flatMap fun m =>
        dispatch m catalog.fallback ++ [.functionWritten m.key m.identifier]

def build (b : Build) (s : Surroundings) : List Event :=
  load s.store b.sources b.config ++
    match Catalog.load s.store b.sources b.config with
    | .error _ => []
    | .ok catalog =>
      generate catalog b.config s.localeData ++
        match (b.run s).1 with
        | .ok path => [.moduleWritten path.text]
        | .error _ => []

def ofReferences {ε : Type} (source : String) : Except ε (List Reference) → List Event
  | .ok references => [.referencesFound references.length source]
  | .error _ => []

/-- The events of finding references in callers up to the first one that fails. -/
def callers (parser : Caller.Parser) (store : Store) (modules : List String) (position : Nat) :
    List CallerSource → List Event
  | [] => []
  | source :: rest =>
    match ofReferences (source.label position)
        (source.references parser store modules position) with
    | [] => []
    | events => events ++ callers parser store modules (position + 1) rest

end Phrasebook.Journal
