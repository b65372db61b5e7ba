/-!
# Trees of callers

What matters of a program for its references: the names, the accesses to attributes and the imports.
All other constructs only hold their parts together.
-/

namespace Phrasebook.Caller

/-- An imported name, possibly under another name. -/
structure Alias where
  name : String
  asName : Option String := none
  deriving DecidableEq, Repr

def Alias.bound (a : Alias) : String := a.asName.getD a.name

/-- The parts of a program that matter. -/
inductive Tree
  | empty
  | name (text : String)
  /-- An attribute of an owner; the place is that of the whole expression. -/
  | attribute (owner : Tree) (attr : String) (line column : Nat)
  | imports (aliases : List Alias)
  /-- An import of names from a module, which is empty if it is only given by points. -/
  | importsFrom (source : String) (aliases : List Alias) (line column : Nat)
  | join (first second : Tree)
  deriving DecidableEq, Repr

namespace Tree

def ofList : List Tree → Tree
  | [] => .empty
  | t :: rest => .join t (ofList rest)

/-- The dotted name that a tree is, if it is nothing else. -/
def dottedName? : Tree → Option String
  | .name text => some text
  | .attribute owner attr _ _ => owner.dottedName?.map fun dotted => dotted ++ "." ++ attr
  | _ => none

end Tree

end Phrasebook.Caller
