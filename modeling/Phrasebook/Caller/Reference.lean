import Phrasebook.Caller.Statement
import Phrasebook.Catalog.Compile

/-!
# References to generated modules

Which names a caller takes from a generated module: the names that it imports from the module, and
the attributes of names that an import binds to the module. Imports bind everywhere, wherever they
stand. A reference to a name that the module does not define is a fault of the caller. References
are looked for in trees, so they can be found with any parser.
-/

namespace Phrasebook

/-- A name that a caller takes from a generated module. -/
structure Reference where
  name : String
  line : Int
  /-- The number of bytes before the reference on its line. -/
  column : Int := 0
  source : String := "<string>"
  deriving DecidableEq, Repr

namespace Reference

def span (r : Reference) : Except Invalid Span := Span.atLine r.source r.line

/-- Whether a reference may stand before another: by line, then by column. -/
def precedes (a b : Reference) : Bool :=
  a.line < b.line || (a.line == b.line && a.column ≤ b.column)

end Reference

namespace Caller

/-- Whether the last part of a dotted name is the name of a generated module. -/
def isGenerated (modules : List String) (dotted : String) : Bool :=
  modules.contains (String.ofList (Text.afterLast '.' dotted.toList))

namespace Tree

/-- The names that imports bind to generated modules. -/
def bindings (modules : List String) : Tree → List String
  | .empty => []
  | .name _ => []
  | .attribute owner _ _ _ => owner.bindings modules
  | .imports aliases => (aliases.filter fun a => isGenerated modules a.name).map Alias.bound
  | .importsFrom source aliases _ _ =>
    if source ≠ "" ∧ isGenerated modules source then []
    else (aliases.filter fun a => modules.contains a.name).map Alias.bound
  | .join first second => first.bindings modules ++ second.bindings modules

/-- The names that are imported from generated modules. -/
def importedNames (modules : List String) (source : String) : Tree → List Reference
  | .empty => []
  | .name _ => []
  | .attribute owner _ _ _ => owner.importedNames modules source
  | .imports _ => []
  | .importsFrom origin aliases line column =>
    if origin ≠ "" ∧ isGenerated modules origin then
      (aliases.filter fun a => a.name ≠ "*").map fun a => ⟨a.name, line, column, source⟩
    else []
  | .join first second =>
    first.importedNames modules source ++ second.importedNames modules source

/-- The attributes of names that are bound, an access before those in its owner. -/
def accesses (bound : List String) (source : String) : Tree → List Reference
  | .empty => []
  | .name _ => []
  | .attribute owner attr line column =>
    let rest := owner.accesses bound source
    if owner.dottedName?.any bound.contains then ⟨attr, line, column, source⟩ :: rest else rest
  | .imports _ => []
  | .importsFrom .. => []
  | .join first second => first.accesses bound source ++ second.accesses bound source

def references (modules : List String) (source : String) (tree : Tree) : List Reference :=
  sortBy Reference.precedes
    (tree.importedNames modules source ++ tree.accesses (tree.bindings modules) source)

end Tree

/-- A parser makes the tree of a text, or refuses the text. -/
abbrev Parser := String → Except CallerRefusal Tree

/-- The references in the text of a caller. They depend on the text only through its tree, and the
tree is up to the parser. -/
def findReferences (text : String) (modules : List String := ["i18n"])
    (source : String := "<string>") (parser : Parser := parse) :
    Except CallerRefusal (List Reference) :=
  (parser text).map fun tree => tree.references modules source

end Caller

namespace Catalog

/-- Whether a generated module has a name: that of a message, one of its own, or one that every
module has. -/
def offers (c : Catalog) (name : String) : Bool :=
  c.identifiers.contains name || Key.reserved.contains name || ['_', '_'].isPrefixOf name.toList

/-- Refuses references to names that the module of a catalog does not have. -/
def checkReferences (c : Catalog) (references : List Reference) : Except Error Unit :=
  match references.filter fun r => !c.offers r.name with
  | [] => .ok ()
  | first :: rest => do
    let span ← first.span
    throw (.fault (.keyUnresolved ((first :: rest).map Reference.name).eraseDups (some span)))

end Catalog

/-- Where the text of a caller comes from. -/
inductive CallerSource
  | text (content : String)
  | file (path : Path)
  deriving DecidableEq, Repr

namespace CallerSource

def label (position : Nat) : CallerSource → String
  | .text _ => s!"<string #{position}>"
  | .file path => path.text

def content (store : Store) (position : Nat) (source : CallerSource) : Except Fault String :=
  match source with
  | .text content => .ok content
  | .file path =>
    match Source.fileText store path with
    | .ok characters => .ok (String.ofList characters)
    | .error failure => .error (.referenceSourceUnreadable (source.label position) failure)

def references (parser : Caller.Parser) (store : Store) (modules : List String) (position : Nat)
    (source : CallerSource) : Except Error (List Reference) := do
  let content ← source.content store position
  Caller.findReferences content modules (source.label position) parser

/-- The references in callers, the first of which has a position. -/
def allReferences (parser : Caller.Parser) (store : Store) (modules : List String)
    (position : Nat) : List CallerSource → Except Error (List Reference)
  | [] => .ok []
  | source :: rest => do
    let found ← source.references parser store modules position
    return found ++ (← allReferences parser store modules (position + 1) rest)

end CallerSource

/-- Refuses callers that take names from the module of a catalog that it does not have. All callers
are read first. -/
def Catalog.checkCallers (c : Catalog) (store : Store) (callers : List CallerSource)
    (modules : List String := ["i18n"]) (parser : Caller.Parser := Caller.parse) :
    Except Error Unit := do
  c.checkReferences (← CallerSource.allReferences parser store modules 1 callers)

end Phrasebook
