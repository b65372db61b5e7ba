import Phrasebook.Catalog.Compile
import Phrasebook.Generated.Print

/-!
# Builds

A build reads and compiles sources, generates a module, and only then writes it to a file, making
the directories on the way. An absolute output path is taken as it is; a relative one starts at the
directory that the build names, else at the one that the environment names, else at the working
directory.
-/

namespace Phrasebook

/-- What a build finds around it. -/
structure Surroundings where
  store : Store := {}
  /-- The names of locales, without which a build can still do all but describe them. -/
  localeData : LocaleData := .absent
  /-- The directory for modules that the environment names. -/
  outDirectory : Option String := none

structure Build where
  /-- The sources, later ones replacing sections of earlier ones. -/
  sources : List Source
  output : String
  /-- The directory at which a relative path starts. -/
  outDirectory : Option String := none
  config : Config := {}
  deriving DecidableEq, Repr

namespace Build

def generate (build : Build) (s : Surroundings) : Except Error Generated.Module := do
  let catalog ← Catalog.load s.store build.sources build.config
  Generated.Module.ofCatalog catalog build.config s.localeData

def directory (build : Build) (s : Surroundings) : Path :=
  match build.outDirectory, s.outDirectory.filter (· ≠ "") with
  | some directory, _ => Path.ofText directory
  | none, some directory => Path.ofText directory
  | none, none => ⟨"/", s.store.cwd⟩

def target (build : Build) (s : Surroundings) : Path :=
  (build.directory s).join (Path.ofText build.output)

/-- A store with a text written to a path, and the failure that stopped the writing. -/
def writeText (store : Store) (path : Path) (text : String) : Store × Option WriteFailure :=
  match store.makeDirectories path.parent with
  | (store, some failure) => (store, some failure)
  | (store, none) =>
    match store.write path (Text.encodeUtf8 text.toList) with
    | .ok store => (store, none)
    | .error failure => (store, some failure)

/-- The path of the written module or the error that ended the build, and the store that the build
leaves behind. -/
def run (build : Build) (s : Surroundings) : Except Error Path × Store :=
  match build.generate s with
  | .error error => (.error error, s.store)
  | .ok generated =>
    match writeText s.store (build.target s) generated.text with
    | (store, none) => (.ok (build.target s), store)
    | (store, some failure) => (.error (.write failure), store)

end Build

end Phrasebook
