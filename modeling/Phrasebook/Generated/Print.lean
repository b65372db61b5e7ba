import Phrasebook.Code.Line
import Phrasebook.Generated.Basic

/-!
# The text of generated modules

A generated module is printed part by part as lines of code. Every text from a catalog goes through
a string literal, so no line holds more than it should.
-/

namespace Phrasebook.Generated

open Code Text

/-- The first line of every generated module. -/
def header : String := "# Generated by twinegen. Do not edit."

def tuple : List String → String
  | [] => "()"
  | [item] => "(" ++ item ++ ",)"
  | items => "(" ++ ", ".intercalate items ++ ")"

def tripleQuoted (text : String) : String := "\"\"\"" ++ text ++ "\"\"\""

def localeExpression (l : Locale) : String :=
  "Lang(" ++ literal l.language ++ ", " ++ literal (l.region.getD "") ++ ")"

def argumentName (position : Nat) : String := s!"arg{position}"

/-- The expression for an argument of a formatting call. -/
def Argument.expression (a : Argument) : String :=
  if a.truncated then "int(" ++ argumentName a.position ++ ")" else argumentName a.position

/-- The statement that returns what a body says. -/
def Body.statement : Body → String
  | .plain text => "return " ++ literal text
  | .filled text arguments =>
    "return " ++ literal text ++ ".format(" ++ ", ".intercalate (arguments.map Argument.expression)
      ++ ")"

def Case.lines (c : Case) : List Line :=
  let region := match c.region with
    | some region => literal region
    | none => "_"
  line ("case Lang(" ++ literal c.language ++ ", " ++ region ++ "):")
    :: indent [line c.body.statement]

def Function.parameters (f : Function) : String :=
  ", ".intercalate ("lang: Lang"
    :: (List.range f.arity).map (fun position => argumentName position ++ ": object") ++ ["/"])

def Function.lines (f : Function) : List Line :=
  line ("def " ++ f.identifier ++ "(" ++ f.parameters ++ ") -> str:")
    :: indent ([line (literal ("Translation of [" ++ f.key ++ "].")), line "match lang:"]
      ++ indent (f.cases.flatMap Case.lines
        ++ line "case _:" :: indent [line f.default.statement]))

def Constructor.lines (c : Constructor) : List Line :=
  blank ++ [line "@classmethod", line ("def " ++ c.name ++ "(cls, region: str = \"\") -> Self:")]
    ++ indent [line ("return cls(" ++ literal c.language ++ ", region)")]

/-- The lines of the class of the error that reading a locale ends with. -/
def codecErrorLines : List Line :=
  line "class UnknownLocaleOnDecode(ValueError):"
    :: indent [line (tripleQuoted "Lang.decode() met a language or region the catalog lacks.")]

/-- The lines of the method that writes a locale as text. -/
def encodeLines : List Line :=
  line "def encode(self) -> str:"
    :: indent ([line (tripleQuoted "Canonical locale string: \"en\" or \"en_GB\"."),
        line "if not self.region:"]
      ++ indent [line "return self.language"]
      ++ [line "return self.language + \"_\" + self.region.upper()"])

/-- The statement that reports an unknown part of the text of a locale. -/
def decodeErrorStatement (part : String) : String :=
  "raise UnknownLocaleOnDecode(f\"Unknown " ++ part ++ " \x7b" ++ part
    ++ "!r\x7d in locale \x7bvalue!r\x7d\")"

/-- The lines of the method that reads a locale from text. -/
def decodeLines (unit : String) : List Line :=
  [line "@classmethod", line "def decode(cls, value: str) -> Self:"]
    ++ indent ([line "\"\"\"Parse \"en\", \"en_GB\" or any casing of them.", line "",
        line "Raises:",
        line (unit ++ "UnknownLocaleOnDecode: If the language or region is unknown"),
        line "\"\"\"", line "lowered = value.lower()", line "if lowered in _LANGUAGES:"]
      ++ indent [line "return cls(lowered)"]
      ++ [line "language, separator, region = lowered.rpartition(\"_\")", line "if not separator:"]
      ++ indent [line "language, region = lowered, \"\""]
      ++ [line "if region and region not in _REGIONS:"]
      ++ indent [line (decodeErrorStatement "region")]
      ++ [line "if language not in _LANGUAGES:"]
      ++ indent [line (decodeErrorStatement "language")]
      ++ [line "return cls(language, region)"])

def codecLines (unit : String) : List Line :=
  blank ++ encodeLines ++ blank
    ++ line "def __str__(self) -> str:" :: indent [line "return self.encode()"]
    ++ blank ++ decodeLines unit

def Module.classLines (m : Module) : List Line :=
  [line "@dataclasses.dataclass(frozen=True, slots=True)", line "class Lang:"]
    ++ indent ([line "\"\"\"Locale of a translation lookup.", line "", line "Attributes:",
        line (m.unit ++ "language: One of the catalog languages"),
        line (m.unit ++ "region: Region (\"\" when absent), stored lowercase"), line "\"\"\""]
      ++ blank ++ [line "language: str", line "region: str = \"\""]
      ++ blank ++ line "def __post_init__(self) -> None:"
        :: indent (line "if self.language not in _LANGUAGES:"
          :: indent [line "raise ValueError(f\"Unknown language \x7bself.language!r\x7d\")"]
          ++ [line "_set_field(self, \"region\", self.region.lower())"])
      ++ m.constructors.flatMap Constructor.lines
      ++ blank ++ [line "@classmethod", line "def all_languages(cls) -> tuple[Self, ...]:"]
      ++ indent [line (tripleQuoted "Every locale of the catalog, in sorted order."),
        line "return ALL_LANGUAGES"]
      ++ blank ++ [line "@classmethod", line "def default(cls) -> Self:"]
      ++ indent [line (tripleQuoted "Smallest locale of the catalog."), line "return DEFAULT_LANG"]
      ++ if m.regions.isSome then codecLines m.unit else [])

def Module.tableLines (m : Module) : List Line :=
  line ("_LANGUAGES: tuple[str, ...] = " ++ tuple (m.languages.map literal))
    :: (m.regions.map fun regions =>
      line ("_REGIONS: tuple[str, ...] = " ++ tuple (regions.map literal))).toList
    ++ [line "_set_field = object.__setattr__"]

/-- The line of a locale, with its name as a comment. -/
def localeLine (l : Locale × Option String) : Line :=
  let comment := match l.2.filter (· ≠ "") with
    | some name => "  # " ++ name
    | none => ""
  line (localeExpression l.1 ++ "," ++ comment)

def Module.localeLines (m : Module) : List Line :=
  line "ALL_LANGUAGES: tuple[Lang, ...] = (" :: indent (m.locales.map localeLine)
    ++ [line ")", line ("DEFAULT_LANG: Lang = " ++ localeExpression m.default)]

def Module.lines (m : Module) : List Line :=
  [line header, line (tripleQuoted m.docstring)] ++ blank
    ++ [line "import dataclasses", line "from typing import Self"] ++ blank
    ++ line "__all__ = [" :: indent (m.exports.map fun name => line (literal name ++ ","))
    ++ [line "]"] ++ blank ++ m.tableLines ++ blank 2
    ++ (if m.regions.isSome then codecErrorLines ++ blank 2 else [])
    ++ m.classLines ++ blank 2 ++ m.localeLines
    ++ m.functions.flatMap fun f => blank 2 ++ f.lines

def Module.text (m : Module) : String := render m.unit m.lines

end Phrasebook.Generated

namespace Phrasebook

def Catalog.moduleText (c : Catalog) (config : Config) (data : LocaleData) : Except Error String :=
  Generated.Module.text <$> Generated.Module.ofCatalog c config data

end Phrasebook
