import Phrasebook.Generated.Basic
import Phrasebook.Text.Line
import Phrasebook.Text.Literal

/-!
# Running generated modules

What the parts of a generated module do when they are called. A locale of a module is a known
language with a region in lower case, which is empty for none. A function takes the first case that
matches the locale and evaluates its body.
-/

namespace Phrasebook.Generated

structure Lang where
  language : String
  /-- The region, empty for none. -/
  region : String
  deriving DecidableEq, Repr

/-- Why a call of a generated module fails. -/
inductive RunError
  | missingName (name : String)
  | unknownLanguage (language : String)
  /-- A text of a locale names a region that the module lacks. -/
  | undecodableRegion (value region : String)
  /-- A text of a locale names a language that the module lacks. -/
  | undecodableLanguage (value language : String)
  | render (error : RenderError)
  deriving DecidableEq, Repr

instance : MonadLift (Except RenderError) (Except RunError) := ⟨fun x => x.mapError .render⟩

/-- The message that the module gives to an error of its own. -/
def RunError.message? : RunError → Option String
  | .unknownLanguage language => some ("Unknown language " ++ Text.quoted language)
  | .undecodableRegion value region =>
    some ("Unknown region " ++ Text.quoted region ++ " in locale " ++ Text.quoted value)
  | .undecodableLanguage value language =>
    some ("Unknown language " ++ Text.quoted language ++ " in locale " ++ Text.quoted value)
  | _ => none

def Case.fits (c : Case) (lang : Lang) : Bool :=
  lang.language == c.language && (c.region.isNone || c.region == some lang.region)

def Function.body (f : Function) (lang : Lang) : Body :=
  match f.cases.find? (·.fits lang) with
  | some c => c.body
  | none => f.default

/-- The value of an argument of a formatting call, where `int` turns a value into an integer. -/
def Argument.evaluate (int : Value → Except RenderError Value) (values : List Value)
    (a : Argument) : Except RenderError Value :=
  match values[a.position]? with
  | none => .error .missingArgument
  | some value => if a.truncated then int value else .ok value

/-- The text that a body returns for arguments. -/
def Body.evaluate (int : Value → Except RenderError Value) (values : List Value) :
    Body → Except RenderError String
  | .plain text => .ok text
  | .filled text arguments => do Format.render text (← arguments.mapM (·.evaluate int values))

def Function.apply (int : Value → Except RenderError Value) (f : Function) (lang : Lang)
    (values : List Value) : Except RenderError String :=
  if values.length ≠ f.arity then .error (.argumentCount f.arity values.length)
  else (f.body lang).evaluate int values

namespace Module

/-- The function with a name, where names are compared as they are spelled. -/
def function? (m : Module) (name : String) : Option Function :=
  m.functions.find? (·.identifier == name)

/-- Whether a function comes behind one with the name `__builtins__`. The names that are known to
every module are looked up in what this name stands for when a function is defined, and behind such
a function that is no table of names. -/
def isCutOff (m : Module) (f : Function) : Bool :=
  (m.functions.takeWhile (·.identifier != f.identifier)).any (·.identifier == "__builtins__")

/-- What the name `int` does to a value inside a function of the module. A function of this name
takes the place of the conversion; its first argument is then no locale. -/
def truncate (m : Module) (f : Function) (value : Value) : Except RenderError Value :=
  match m.function? "int" with
  | none => if m.isCutOff f then .error .conversionHidden else value.truncate
  | some int =>
    if int.arity ≠ 0 then .error (.argumentCount int.arity 0)
    else match int.default with
      | .plain text => .ok (.text text)
      | .filled text _ => Value.text <$> Format.render text []

def apply (m : Module) (f : Function) (lang : Lang) (values : List Value) :
    Except RenderError String :=
  f.apply (m.truncate f) lang values

def function (m : Module) (name : String) : Except RunError Function :=
  match m.function? name with
  | some f => .ok f
  | none => .error (.missingName name)

def call (m : Module) (name : String) (lang : Lang) (values : List Value) :
    Except RunError String := do
  m.apply (← m.function name) lang values

/-- The locale of a language, which must be known, with a region in any case. -/
def lang (m : Module) (language : String) (region : String := "") : Except RunError Lang :=
  if m.languages.contains language then .ok ⟨language, Text.lower region⟩
  else .error (.unknownLanguage language)

def construct (m : Module) (name : String) (region : String := "") : Except RunError Lang :=
  match m.constructors.find? (·.name == name) with
  | some c => m.lang c.language region
  | none => .error (.missingName name)

/-- A locale of the catalog as one of the module. -/
def langOf (l : Locale) : Lang := ⟨l.language, Text.lower (l.region.getD "")⟩

def allLangs (m : Module) : List Lang := m.locales.map fun l => langOf l.1

def defaultLang (m : Module) : Lang := langOf m.default

def encode (m : Module) (lang : Lang) : Except RunError String :=
  match m.regions with
  | none => .error (.missingName "encode")
  | some _ =>
    .ok (if lang.region = "" then lang.language
      else lang.language ++ "_" ++ Text.upper lang.region)

def decode (m : Module) (value : String) : Except RunError Lang :=
  match m.regions with
  | none => .error (.missingName "decode")
  | some regions =>
    let lowered := Text.lower value
    if m.languages.contains lowered then m.lang lowered
    else
      let (language, region) := match Text.splitLast? '_' lowered.toList with
        | some (language, region) => (String.ofList language, String.ofList region)
        | none => (lowered, "")
      if region ≠ "" ∧ !regions.contains region then .error (.undecodableRegion value region)
      else if !m.languages.contains language then .error (.undecodableLanguage value language)
      else m.lang language region

/-- A locale as it is shown: its text, or its fields if the module does not write locales. -/
def showLang (m : Module) (lang : Lang) : String :=
  match m.encode lang with
  | .ok text => text
  | .error _ =>
    "Lang(language=" ++ Text.quoted lang.language ++ ", region=" ++ Text.quoted lang.region ++ ")"

/-- The description of a module when it runs: its docstring is a literal of generated code, whose
line endings are unified. A null character cannot stand in it. -/
def doc? (m : Module) : Option String :=
  if m.docstring.toList.contains '\x00' then none
  else (Text.unescape? (Text.unifyNewlines m.docstring.toList)).map String.ofList

/-- Whether a module can be run: its docstring has a value, and no function has the one name that
cannot be assigned. -/
def isRunnable (m : Module) : Bool := m.doc?.isSome && (m.function? "__debug__").isNone

end Module

end Phrasebook.Generated
