import Phrasebook.Section.Read
import Phrasebook.Store.Basic

/-!
# Sources

Where the text of a catalog comes from. A file that is read as text has its line endings unified;
streams and plain texts are taken as they are. Bytes are decoded as UTF-8.
-/

namespace Phrasebook

/-- Where the text of a catalog comes from. -/
inductive Source
  | text (content : String)
  | file (path : Path)
  /-- A stream of characters, possibly with a name. -/
  | stream (content : String) (name : Option String)
  | bytes (content : List UInt8) (name : Option String)
  /-- A file that was opened under a name, for its characters or for its bytes. -/
  | opened (name : String) (binary : Bool)
  /-- A stream that fails with a reason, possibly with a name. -/
  | failing (reason : String) (name : Option String)
  deriving DecidableEq, Repr

namespace Source

def decode (bytes : List UInt8) : Except ReadFailure (List Char) :=
  match Text.decodeUtf8 bytes with
  | .ok characters => .ok characters
  | .error refusal => .error (.undecodable refusal)

/-- The text of a file, with its line endings unified. -/
def fileText (store : Store) (path : Path) : Except ReadFailure (List Char) := do
  return Text.unifyNewlines (← decode (← store.read path))

def content (store : Store) : Source → Except ReadFailure (List Char)
  | .text content => .ok content.toList
  | .file path => fileText store path
  | .stream content _ => .ok content.toList
  | .bytes content _ => decode content
  | .opened name binary =>
    let path := Path.ofText name
    if binary then do decode (← store.read path) else fileText store path
  | .failing reason _ => .error (.stream reason)

def ownName : Source → String
  | .text _ => "<string>"
  | .file path => path.text
  | .stream _ name => name.getD "<stream>"
  | .bytes _ name => name.getD "<stream>"
  | .opened name _ => name
  | .failing _ name => name.getD "<stream>"

/-- The name of a source in diagnostics: the given one, unless it is empty, or its own. -/
def label (source : Source) (name : Option String) : String :=
  match name.filter (· ≠ "") with
  | some name => name
  | none => source.ownName

def read (store : Store) (source : Source) (name : Option String := none) :
    Except Fault Sections :=
  match source.content store with
  | .ok characters => Sections.ofText (source.label name) characters
  | .error failure => .error (.sourceUnreadable (source.label name) failure)

/-- The name given to the source at a position of a list: plain texts are numbered. -/
def numberedName (position : Nat) : Source → Option String
  | .text _ => some s!"<string #{position}>"
  | _ => none

/-- The sections of each source of a list, whose first one has a position. -/
def readEach (store : Store) (position : Nat) : List Source → Except Fault (List Sections)
  | [] => .ok []
  | source :: rest => do
    let sections ← source.read store (source.numberedName position)
    return sections :: (← readEach store (position + 1) rest)

def readAll (store : Store) (sources : List Source) : Except Fault Sections :=
  (readEach store 1 sources).map Sections.merge

end Source

end Phrasebook
