/-!
# Lines of generated code

Generated code is a list of lines, each with its depth of indentation. An empty line carries no
indentation. The text of the lines ends in exactly one line feed: empty lines at the end are left
out.
-/

namespace Phrasebook.Code

structure Line where
  /-- The depth of indentation; a negative depth counts as zero. -/
  depth : Int
  text : String
  deriving DecidableEq, Repr

def line (text : String) : Line := ⟨0, text⟩

def blank (count : Nat := 1) : List Line := List.replicate count (line "")

def indent (lines : List Line) : List Line := lines.map fun l => ⟨l.depth + 1, l.text⟩

def repeated (text : String) (count : Nat) : String := String.join (List.replicate count text)

/-- The line with its indentation in a unit. -/
def Line.render (unit : String) (l : Line) : String :=
  if l.text = "" then "" else repeated unit l.depth.toNat ++ l.text

/-- Lines without the empty ones at the end. -/
def dropTrailingEmpty (lines : List String) : List String :=
  (lines.reverse.dropWhile (· = "")).reverse

/-- The text of lines, ended by one line feed. -/
def joinLines (lines : List String) : String :=
  "\n".intercalate (dropTrailingEmpty lines) ++ "\n"

def render (unit : String) (lines : List Line) : String := joinLines (lines.map (Line.render unit))

end Phrasebook.Code
