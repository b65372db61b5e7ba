import Phrasebook.Diagnostic.Basic

/-!
# Sections

A catalog as it is written: sections in the order in which they were first opened, each with the
entries of a key. An entry is a wording before it is parsed. Sections that are merged replace
one another as a whole; a replaced section keeps its position.
-/

namespace Phrasebook

/-- A wording as it is written, with its place. -/
structure Entry where
  tag : String
  text : String
  line : Int
  source : String
  deriving DecidableEq, Repr

def Entry.span (entry : Entry) : Except Invalid Span := Span.atLine entry.source entry.line

/-- The entries of a key. -/
structure Section where
  key : String
  entries : List Entry
  deriving DecidableEq, Repr

/-- Sections in the order in which their keys first came up. -/
abbrev Sections := List Section

namespace Sections

def keys (sections : Sections) : List String := sections.map Section.key

def get? (sections : Sections) (key : String) : Option (List Entry) :=
  (sections.find? (·.key == key)).map Section.entries

/-- Sections with one for a key, which is empty if it is new. -/
def openKey (key : String) (sections : Sections) : Sections :=
  if sections.keys.contains key then sections else sections ++ [⟨key, []⟩]

/-- Sections with a further entry at the end of a key. -/
def addEntry (key : String) (entry : Entry) (sections : Sections) : Sections :=
  sections.map fun s => if s.key = key then ⟨key, s.entries ++ [entry]⟩ else s

/-- Sections in which a section takes the place of the one with its key, or the last place. -/
def put (sections : Sections) (s : Section) : Sections :=
  if sections.keys.contains s.key then sections.map fun t => if t.key = s.key then s else t
  else sections ++ [s]

/-- The sections of a list in which a later section replaces an earlier one of its key. -/
def ofList (sections : List Section) : Sections := sections.foldl put []

/-- The sections of several catalogs, later ones replacing earlier ones key by key. -/
def merge (catalogs : List Sections) : Sections := ofList catalogs.flatten

/-- The keys of a list that came up before in it, in order and with repetitions. -/
def repeated (seen : List String) : List String → List String
  | [] => []
  | key :: rest =>
    if seen.contains key then key :: repeated seen rest else repeated (key :: seen) rest

/-- The keys whose section a later catalog replaces, once for each replacement. -/
def replacedKeys (catalogs : List Sections) : List String :=
  repeated [] (catalogs.flatten.map Section.key)

end Sections

end Phrasebook
