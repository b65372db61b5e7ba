import Phrasebook.Text.Quoted

/-!
# Violated conditions

The conditions on the parts of a catalog that a caller of this library has to meet when it builds
such a part by hand. Sources that are read and compiled always meet them.
-/

namespace Phrasebook

/-- A violated condition. -/
inductive Invalid
  /-- Lines are counted from one. -/
  | line (n : Int)
  /-- A message has at least one wording. -/
  | noWordings (key : String)
  /-- A set without locales has no default. -/
  | noDefaultLocale
  /-- A region with a low line cannot be told from a language with one. -/
  | regionSeparator (region : String)
  /-- Only a template without directives has a text of its own. -/
  | hasPlaceholders (source : String) (arity : Nat)
  /-- The indentation of generated code consists of spaces and tabulators. -/
  | indent (text : String)
  /-- The description of a generated module has to fit between triple quotation marks. -/
  | docstring
  deriving DecidableEq, Repr

def Invalid.message : Invalid → String
  | .line n => s!"SourceSpan.line must be >= 1 (1-indexed), got {n}"
  | .noWordings key => s!"CatalogEntry '{key}' has no translations"
  | .noDefaultLocale => "empty LocaleSet has no default locale"
  | .regionSeparator region =>
    "region " ++ Text.quoted region ++ " contains '_' and cannot be decoded"
  | .hasPlaceholders source arity =>
    "template " ++ Text.quoted source ++ s!" has {arity} placeholder(s)"
  | .indent text => "indent must be non-empty spaces or tabs, got " ++ Text.quoted text
  | .docstring =>
    "module_docstring must not contain triple quotes or end with a quote or backslash"

end Phrasebook
