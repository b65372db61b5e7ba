import Phrasebook.Code.Line

/-!
# Writing lines one by one

An outline collects lines at the depth that is open at the time. Levels are opened by a number of
steps, which may be negative, and closed in the opposite order.
-/

namespace Phrasebook.Code

/-- Lines written so far, and the levels that are open. -/
structure Outline where
  unit : String := "    "
  /-- The steps of the open levels, the innermost first. -/
  levels : List Int := []
  lines : List Line := []

namespace Outline

def depth (o : Outline) : Int := o.levels.foldr (· + ·) 0

def write (o : Outline) (text : String) : Outline :=
  { o with lines := o.lines ++ [⟨o.depth, text⟩] }

def writeAll (o : Outline) (texts : List String) : Outline := texts.foldl write o

/-- Writes empty lines; a negative number writes none. -/
def skip (o : Outline) (count : Int := 1) : Outline :=
  o.writeAll (List.replicate count.toNat "")

def openLevel (o : Outline) (steps : Int := 1) : Outline := { o with levels := steps :: o.levels }

def closeLevel (o : Outline) : Outline := { o with levels := o.levels.tail }

def text (o : Outline) : String := render o.unit o.lines

end Outline

end Phrasebook.Code
