import Phrasebook.Fault
import Phrasebook.Section.Basic
import Phrasebook.Text.Blank
import Phrasebook.Text.Line

/-!
# Reading sections

A line `[key]` opens a section, a line `tag = text` adds an entry to the open section, and every
other line is skipped. A line may do both, the opening first. An entry before the first section is a
fault.
-/

namespace Phrasebook

open Text

/-- The key that a line opens: a non-empty run of characters in brackets after blanks. -/
def headerKey? (line : List Char) : Option String :=
  match trimStart line with
  | '[' :: rest =>
    let key := rest.takeWhile (· ≠ ']')
    if key.isEmpty ∨ (rest.dropWhile (· ≠ ']')).isEmpty then none else some (String.ofList key)
  | _ => none

/-- Whether a character may stand in the tag of an entry. -/
def isTagChar (c : Char) : Bool := !isBlank c && c != '=' && c != ';' && c != '#'

/-- The text of an entry after its equals sign: what is left without the blanks around it, which
must not hold a line feed, or the last character if there are only blanks. -/
def entryText? (rest : List Char) : Option String :=
  match trim rest with
  | [] => rest.getLast?.map fun c => String.ofList [c]
  | text => if text.contains '\n' then none else some (String.ofList text)

/-- The tag and the text of the entry that a line adds. -/
def entryParts? (line : List Char) : Option (String × String) :=
  let line := trimStart line
  let tag := line.takeWhile isTagChar
  if tag.isEmpty then none
  else match trimStart (line.dropWhile isTagChar) with
    | '=' :: rest => (entryText? rest).map fun text => (String.ofList tag, text)
    | _ => none

namespace Sections

/-- What has been read, and the section that is open. -/
structure Reading where
  sections : Sections := []
  current : Option String := none
  deriving DecidableEq, Repr

/-- Opens the section of a line, if it opens one. -/
def Reading.openLine (reading : Reading) (line : List Char) : Reading :=
  match headerKey? line with
  | some key => ⟨reading.sections.openKey key, some key⟩
  | none => reading

def Reading.readLine (source : String) (number : Nat) (reading : Reading) (line : List Char) :
    Except Fault Reading :=
  let line := chomp line
  let reading := reading.openLine line
  match entryParts? line with
  | none => .ok reading
  | some (tag, text) =>
    match reading.current with
    | none => .error (.keyValueOutsideSection source number)
    | some key =>
      .ok { reading with sections := reading.sections.addEntry key ⟨tag, text, number, source⟩ }

def Reading.readLines (source : String) (number : Nat) (reading : Reading) :
    List (List Char) → Except Fault Reading
  | [] => .ok reading
  | line :: lines =>
    match reading.readLine source number line with
    | .ok reading => readLines source (number + 1) reading lines
    | .error fault => .error fault

def ofLines (source : String) (lines : List (List Char)) : Except Fault Sections :=
  (Reading.readLines source 1 {} lines).map Reading.sections

def ofText (source : String) (text : List Char) : Except Fault Sections :=
  ofLines source (splitLines text)

end Sections

end Phrasebook
