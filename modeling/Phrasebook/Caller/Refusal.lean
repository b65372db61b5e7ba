/-!
# Refused callers

Why the text of a caller is no program.
-/

namespace Phrasebook

/-- Why the text of a caller is no program. -/
inductive CallerRefusal
  /-- The text breaks a rule of the grammar. -/
  | grammar
  /-- Lines are indented where they must not be, or not where they must be. -/
  | indentation
  /-- The depth of a line depends on the width of a tabulator. -/
  | tabulators
  deriving DecidableEq, Repr

end Phrasebook
