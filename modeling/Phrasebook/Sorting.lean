/-!
# Sorting

Insertion into a sorted list, and sorting by repeated insertion. An element goes before the first
one that it may precede, so elements of equal rank keep their order.
-/

namespace Phrasebook

variable {α : Type}

/-- A list with an element inserted before the first one that it may precede. -/
def insertSorted (le : α → α → Bool) (a : α) : List α → List α
  | [] => [a]
  | b :: rest => if le a b then a :: b :: rest else b :: insertSorted le a rest

/-- The elements of a list in order, those of equal rank in the order of the list. -/
def sortBy (le : α → α → Bool) : List α → List α
  | [] => []
  | a :: rest => insertSorted le a (sortBy le rest)

/-- Insertion adds the element and nothing else. -/
theorem insertSorted_perm (le : α → α → Bool) (a : α) (l : List α) :
    (insertSorted le a l).Perm (a :: l) := by
  induction l with
  | nil => exact .refl _
  | cons b rest ih =>
    rw [insertSorted]
    split
    · exact .refl _
    · exact (ih.cons b).trans (.swap a b rest)

/-- Sorting only rearranges. -/
theorem sortBy_perm (le : α → α → Bool) (l : List α) : (sortBy le l).Perm l := by
  induction l with
  | nil => exact .refl _
  | cons a rest ih => exact (insertSorted_perm le a _).trans (ih.cons a)

/-- Sorting keeps the elements. -/
theorem mem_sortBy {le : α → α → Bool} {l : List α} {a : α} : a ∈ sortBy le l ↔ a ∈ l :=
  (sortBy_perm le l).mem_iff

/-- Insertion keeps a sorted list sorted, if the order is total and transitive. -/
theorem pairwise_insertSorted {le : α → α → Bool} (total : ∀ a b, le a b || le b a)
    (trans : ∀ a b c, le a b → le b c → le a c) (a : α) {l : List α}
    (h : l.Pairwise fun a b => le a b) : (insertSorted le a l).Pairwise fun a b => le a b := by
  induction l with
  | nil => simp [insertSorted]
  | cons b rest ih =>
    obtain ⟨hb, hrest⟩ := List.pairwise_cons.1 h
    rw [insertSorted]
    split
    · rename_i hab
      refine List.pairwise_cons.2 ⟨fun c hc => ?_, h⟩
      rcases List.mem_cons.1 hc with rfl | hc
      · exact hab
      · exact trans a b c hab (hb c hc)
    · rename_i hab
      refine List.pairwise_cons.2 ⟨fun c hc => ?_, ih hrest⟩
      rcases List.mem_cons.1 ((insertSorted_perm le a rest).mem_iff.1 hc) with rfl | hc
      · simpa [hab] using total c b
      · exact hb c hc

/-- Sorting sorts, if the order is total and transitive. -/
theorem pairwise_sortBy {le : α → α → Bool} (total : ∀ a b, le a b || le b a)
    (trans : ∀ a b c, le a b → le b c → le a c) (l : List α) :
    (sortBy le l).Pairwise fun a b => le a b := by
  induction l with
  | nil => exact .nil
  | cons a rest ih => exact pairwise_insertSorted total trans a ih

end Phrasebook
