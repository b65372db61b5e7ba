import Phrasebook.Sorting

/-!
# Texts in order

Texts are ordered by the code points of their characters.
-/

namespace Phrasebook.Text

/-- The order of texts by code points. -/
def precedes (a b : String) : Bool := decide (a ≤ b)

/-- Texts in order, without repetitions. -/
def sortedDistinct (texts : List String) : List String := sortBy precedes texts.eraseDups

end Phrasebook.Text
