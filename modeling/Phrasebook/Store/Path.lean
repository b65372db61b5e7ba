import Phrasebook.Text.Split

/-!
# Paths

A path is a root, or none for a relative path, and a list of parts. Empty parts and single points
carry no meaning and are left out; double points are kept, since a part before them may be missing.
-/

namespace Phrasebook

structure Path where
  /-- The root as it is written, empty for a relative path. -/
  root : String := ""
  parts : List String := []
  deriving DecidableEq, Repr

namespace Path

/-- The root of a path: one slash, or two if the path starts with exactly two. -/
def rootOf (text : List Char) : String :=
  match (text.takeWhile (· = '/')).length with
  | 0 => ""
  | 2 => "//"
  | _ => "/"

def ofText (text : String) : Path :=
  { root := rootOf text.toList
    parts := ((Text.splitOn '/' text.toList).map String.ofList).filter fun part =>
      part ≠ "" ∧ part ≠ "." }

def text (path : Path) : String :=
  if path.root = "" ∧ path.parts = [] then "." else path.root ++ "/".intercalate path.parts

def isAbsolute (path : Path) : Bool := path.root != ""

/-- The path that a relative path denotes inside another; an absolute one stays as it is. -/
def join (base path : Path) : Path :=
  if path.isAbsolute then path else ⟨base.root, base.parts ++ path.parts⟩

def parent (path : Path) : Path := ⟨path.root, path.parts.dropLast⟩

end Path

end Phrasebook
