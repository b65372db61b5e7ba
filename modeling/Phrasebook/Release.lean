/-!
# Release

The version of the program and the names that it offers to other programs.
-/

namespace Phrasebook

def version : String := "0.1.0"

/-- The offered names, in order. -/
def offeredNames : List String :=
  ["CompiledCatalog", "CompilerConfig", "FallbackPolicy", "KeyCollisionError", "LocaleCodec",
    "LocaleSet", "LocaleTag", "MalformedCatalogError", "MalformedLocaleTagError",
    "MalformedPlaceholderError", "MissingTranslationError", "PlaceholderMismatchError",
    "ReferenceSourceError", "TwineError", "UnknownLocaleOnDecodeError", "UnresolvedKeyError",
    "__version__", "build_translations", "build_translations_from_readers",
    "build_translations_from_str", "check_references", "compile_sources", "load_catalog"]

end Phrasebook
