import Phrasebook.Catalog.Basic
import Phrasebook.Source

/-!
# Compiling sections

Sections become a catalog, or the first fault is reported. Sections are taken in the order of their
keys, so the outcome does not depend on the order in which they were written.
-/

namespace Phrasebook

namespace Catalog

/-- The messages of sections behind those already found. Two keys must not give one identifier. -/
def collect (found : List Message) : List Section → Except Error (List Message)
  | [] => .ok found
  | s :: rest => do
    let m ← Message.ofSection s
    match found.find? (·.identifier == m.identifier) with
    | some other => throw (.fault (.keyCollision m.identifier other.key s.key))
    | none => collect (found ++ [m]) rest

def sortSections (sections : Sections) : List Section :=
  sortBy (fun s t => Text.precedes s.key t.key) sections

def ofMessages (messages : List Message) (policy : Policy) : Catalog :=
  { messages := sortBy (fun m n => Text.precedes m.identifier n.identifier) messages
    locales := LocaleSet.ofList (messages.flatMap Message.locales)
    fallback := policy }

/-- The languages of a catalog that a message lacks, in order. -/
def missingLanguages (c : Catalog) (m : Message) : List String :=
  c.locales.languages.filter fun language => !m.languages.contains language

/-- Demands that every message has every language of the catalog. -/
def checkLanguages (c : Catalog) : Except Fault Unit :=
  match c.messages.find? fun m => !(c.missingLanguages m).isEmpty with
  | some m => .error (.wordingMissing m.key (c.missingLanguages m))
  | none => .ok ()

/-- The catalog of sections. Every section must become a message before languages are compared. -/
def compile (sections : Sections) (config : Config := {}) : Except Error Catalog := do
  let messages ← collect [] (sortSections sections)
  if messages.isEmpty then throw (.fault .catalogEmpty)
  let catalog := ofMessages messages config.fallback
  if config.requireAllLanguages then catalog.checkLanguages
  return catalog

def load (store : Store) (sources : List Source) (config : Config := {}) :
    Except Error Catalog := do
  compile (← Source.readAll store sources) config

end Catalog

end Phrasebook
