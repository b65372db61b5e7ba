import Phrasebook.Generated.Print

/-!
# Writing a module with every check

A module is written from the dispatch of each message, with three conditions on the way: a template
that is returned as a text has no directives, a template that is filled has a directive for each
argument of its function, and there is a default locale. The conditions are written out here as
checks that may fail.
-/

namespace Phrasebook

open Code Generated Text

/-- Why a module cannot be written. -/
inductive Unwritable
  | invalid (condition : Invalid)
  /-- A template has another number of directives than its function has arguments. -/
  | uneven (directives arguments : Nat)
  deriving DecidableEq, Repr

instance : MonadLift (Except Invalid) (Except Unwritable) := ⟨fun x => x.mapError .invalid⟩

/-- The arguments of directives, one for each and none left over. -/
def Directive.argumentsOf (directives : List Directive) (names : List String) :
    Except Unwritable (List String) :=
  if directives.length = names.length then .ok (List.zipWith Directive.argument directives names)
  else .error (.uneven directives.length names.length)

/-- The statement that returns what a template says for arguments with names. -/
def Template.returned (t : Template) (names : List String) : Except Unwritable String :=
  if t.arity = 0 then do
    let text ← t.text
    return "return " ++ literal text
  else do
    let arguments ← Directive.argumentsOf t.directives names
    return "return " ++ literal t.formatString ++ ".format(" ++ ", ".intercalate arguments ++ ")"

def Arm.written (names : List String) (arm : Arm) : Except Unwritable (List Line) := do
  let statement ← arm.template.returned names
  let region := match arm.region with
    | some region => literal region
    | none => "_"
  return line ("case Lang(" ++ literal arm.language ++ ", " ++ region ++ "):")
    :: indent [line statement]

/-- The lines of the function of a key with a dispatch. -/
def Dispatch.written (key : String) (d : Dispatch) : Except Unwritable (List Line) := do
  let names := (List.range d.arity).map argumentName
  let cases ← d.arms.mapM (Arm.written names)
  let default ← d.default.returned names
  let parameters := ", ".intercalate ("lang: Lang" :: names.map (· ++ ": object") ++ ["/"])
  return line ("def " ++ d.identifier ++ "(" ++ parameters ++ ") -> str:")
    :: indent ([line (literal ("Translation of [" ++ key ++ "].")), line "match lang:"]
      ++ indent (cases.flatten ++ line "case _:" :: indent [line default]))

/-- The text of the module of a catalog, whose locales are not described. -/
def Catalog.written (c : Catalog) (config : Config) : Except Unwritable String := do
  let default ← c.locales.default
  let functions ← c.messages.mapM fun m => (Dispatch.ofMessage m c.fallback).written m.key
  let frame := { Module.ofDefault c config none default with functions := [] }
  return render config.indent (frame.lines ++ functions.flatMap (blank 2 ++ ·))

end Phrasebook
