/-!
# Sets of characters

A property of characters is kept as the increasing list of the code points at which it changes,
starting from "not in the set". Membership is the parity of the changes at or below a code point.
-/

namespace Phrasebook.Text

/-- A set of characters, given by the increasing code points at which membership changes. -/
structure CodePointSet where
  /-- Membership changes at each of these code points, in increasing order. -/
  changes : List Nat

namespace CodePointSet

/-- The membership at `n`, when `inside` is the membership just before the first change. -/
def memberAt : List Nat → Nat → Bool → Bool
  | [], _, inside => inside
  | change :: rest, n, inside => if n < change then inside else memberAt rest n (!inside)

def contains (set : CodePointSet) (c : Char) : Bool :=
  memberAt set.changes c.toNat false

@[simp] theorem contains_nil (c : Char) : (CodePointSet.mk []).contains c = false := rfl

end CodePointSet

end Phrasebook.Text
