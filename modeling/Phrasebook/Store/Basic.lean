import Phrasebook.Fault
import Phrasebook.Store.Path

/-!
# Stores

A store holds files and directories and has a working directory, at which relative paths start. A
path is followed part by part: every part but the last must lead to a directory. Reading leaves the
store as it is; writing changes the file at the end of one path.
-/

namespace Phrasebook

inductive Node
  | directory
  | file (bytes : List UInt8)
  deriving DecidableEq, Repr

/-- A place in a store: the names on the way from the root. -/
abbrev Place := List String

/-- Why nothing can be made or written at a path. -/
inductive WriteFailure
  | notFound
  /-- A file stands where the path needs a directory. -/
  | notDirectory
  /-- Something else stands at the path. -/
  | occupied
  | isDirectory
  deriving DecidableEq, Repr

/-- Why a path cannot be followed to its last part. -/
inductive Dead
  | missing
  | file
  deriving DecidableEq, Repr

structure Store where
  cwd : Place := []
  /-- What stands where, the latest first; a place that is not listed is empty. -/
  nodes : List (Place × Node) := []
  deriving DecidableEq, Repr

namespace Store

/-- What stands at a place. The root is a directory. -/
def node? (store : Store) (place : Place) : Option Node :=
  if place = [] then some .directory else store.nodes.lookup place

def put (store : Store) (place : Place) (node : Node) : Store :=
  { store with nodes := (place, node) :: store.nodes.filter (·.1 ≠ place) }

/-- Follows parts from a place. The last part may lead to nothing. -/
def follow (store : Store) (place : Place) : List String → Except Dead Place
  | [] => .ok place
  | part :: parts =>
    match store.node? place with
    | some .directory =>
      store.follow (if part = ".." then place.dropLast else place ++ [part]) parts
    | some (.file _) => .error .file
    | none => .error .missing

def find (store : Store) (path : Path) : Except Dead Place :=
  store.follow (if path.isAbsolute then [] else store.cwd) path.parts

def isDirectory (store : Store) (path : Path) : Bool :=
  match store.find path with
  | .ok place => store.node? place == some .directory
  | .error _ => false

def read (store : Store) (path : Path) : Except ReadFailure (List UInt8) :=
  match store.find path with
  | .error .missing => .error (.notFound path.text)
  | .error .file => .error (.notDirectory path.text)
  | .ok place =>
    match store.node? place with
    | some (.file bytes) => .ok bytes
    | some .directory => .error (.isDirectory path.text)
    | none => .error (.notFound path.text)

def makeDirectory (store : Store) (path : Path) : Except WriteFailure Store :=
  match store.find path with
  | .error .missing => .error .notFound
  | .error .file => .error .notDirectory
  | .ok place =>
    match store.node? place with
    | some _ => .error .occupied
    | none => .ok (store.put place .directory)

/-- The store after a failed attempt to make a directory, which does not matter if one is there. -/
def unlessDirectory (store : Store) (path : Path) (failure : WriteFailure) :
    Store × Option WriteFailure :=
  if store.isDirectory path then (store, none) else (store, some failure)

/-- The store with directories on the way of a path and at its end, and the failure that stopped
their making. Those that were made before it stay. -/
def makeDirectories (store : Store) (path : Path) : Store × Option WriteFailure :=
  match store.makeDirectory path with
  | .ok made => (made, none)
  | .error .notFound =>
    if _h : path.parts = [] then (store, some .notFound)
    else
      match store.makeDirectories path.parent with
      | (store, some failure) => (store, some failure)
      | (store, none) =>
        match store.makeDirectory path with
        | .ok made => (made, none)
        | .error .notFound => (store, some .notFound)
        | .error failure => store.unlessDirectory path failure
  | .error failure => store.unlessDirectory path failure
termination_by path.parts.length
decreasing_by
  have := List.length_pos_iff.2 _h
  simp only [Path.parent, List.length_dropLast]
  omega

def write (store : Store) (path : Path) (bytes : List UInt8) : Except WriteFailure Store :=
  match store.find path with
  | .error .missing => .error .notFound
  | .error .file => .error .notDirectory
  | .ok place =>
    match store.node? place with
    | some .directory => .error .isDirectory
    | _ => .ok (store.put place (.file bytes))

/-- The files of a store that another one lacks or has with other bytes. -/
def changes (store old : Store) : List (Place × List UInt8) :=
  store.nodes.filterMap fun (place, node) =>
    match node with
    | .file bytes => if old.node? place = some node then none else some (place, bytes)
    | .directory => none

end Store

end Phrasebook
