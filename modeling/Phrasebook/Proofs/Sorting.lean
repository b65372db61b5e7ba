import Mathlib.Data.List.Forall2
import Phrasebook.Sorting

/-!
# Lookup in sorted lists

Sorting by insertion is stable: a search for elements of one rank finds the same element before and
after sorting. Where a search accepts two ranks, the sorted list answers with the better one. A list
without elements of equal rank has one sorted arrangement only, and lists whose elements correspond
are sorted alike.
-/

namespace Phrasebook

variable {α : Type} {le : α → α → Bool}

/-- An inserted element is found before all those whose rank it shares, and hides no others. -/
private theorem find?_insertSorted {p : α → Bool} {a : α} {l : List α}
    (h : p a = true → ∀ b ∈ l, p b = true → le a b = true) :
    (insertSorted le a l).find? p = if p a then some a else l.find? p := by
  induction l with
  | nil => cases hp : p a <;> simp [insertSorted, hp]
  | cons b rest ih =>
      have hrest := ih fun hp c hc => h hp c (List.mem_cons_of_mem b hc)
      rw [insertSorted]
      by_cases hab : le a b = true
      · cases hp : p a <;> simp [hab, hp]
      · -- The inserted element passes `b`, so the search cannot stop there for its sake.
        have hb : p a = true → p b = false := by
          intro hp
          by_contra hpb
          exact hab (h hp b (List.mem_cons_self ..) (by simpa using hpb))
        simp only [hab, Bool.false_eq_true, if_false, List.find?_cons, hrest]
        cases hp : p a with
        | true => simp [hb hp]
        | false => simp

/-- Sorting does not change which element of a single rank is found first. -/
theorem find?_sortBy {p : α → Bool} (h : ∀ a b, p a = true → p b = true → le a b = true)
    (l : List α) : (sortBy le l).find? p = l.find? p := by
  induction l with
  | nil => rfl
  | cons a rest ih =>
      rw [sortBy, find?_insertSorted fun hp b _ hb => h a b hp hb, ih, List.find?_cons]
      cases p a <;> simp

/-- In a sorted list the elements of the better rank are found first. -/
theorem find?_or_of_pairwise {p q : α → Bool} {l : List α}
    (hs : l.Pairwise fun a b => le a b = true)
    (h : ∀ a b, p a = true → q b = true → le b a = false) :
    (l.find? fun a => p a || q a) = (l.find? p).or (l.find? q) := by
  induction l with
  | nil => rfl
  | cons a rest ih =>
      obtain ⟨ha, hrest⟩ := List.pairwise_cons.mp hs
      simp only [List.find?_cons, ih hrest]
      cases hp : p a with
      | true => simp
      | false =>
          cases hq : q a with
          | false => simp
          | true =>
              -- Whatever follows `a` does not come before it, so it is not of the better rank.
              have hnone : rest.find? p = none := by
                rw [List.find?_eq_none]
                intro b hb hpb
                have hba := h b a hpb hq
                rw [ha b hb] at hba
                exact Bool.noConfusion hba
              simp [hnone]

/-- A list in which no two elements are of equal rank has one sorted arrangement only. -/
theorem sortBy_eq_of_perm (total : ∀ a b, le a b || le b a)
    (trans : ∀ a b c, le a b → le b c → le a c) {l₁ l₂ : List α} (hp : l₁.Perm l₂)
    (antisymm : ∀ a ∈ l₁, ∀ b ∈ l₁, le a b → le b a → a = b) : sortBy le l₁ = sortBy le l₂ := by
  have hsorted : (sortBy le l₁).Perm (sortBy le l₂) :=
    (sortBy_perm le l₁).trans (hp.trans (sortBy_perm le l₂).symm)
  refine hsorted.eq_of_pairwise ?_ (pairwise_sortBy total trans l₁) (pairwise_sortBy total trans l₂)
  intro a b ha hb hab hba
  exact antisymm a (mem_sortBy.mp ha) b (hp.mem_iff.mpr (mem_sortBy.mp hb)) hab hba

section

variable {β : Type} {le' : β → β → Bool} {r : α → β → Prop}

private theorem forall₂_insertSorted (hle : ∀ a b a' b', r a a' → r b b' → le a b = le' a' b')
    {a : α} {a' : β} (ha : r a a') {l : List α} {l' : List β} (h : List.Forall₂ r l l') :
    List.Forall₂ r (insertSorted le a l) (insertSorted le' a' l') := by
  induction h with
  | nil => exact .cons ha .nil
  | cons hb hrest ih =>
      rw [insertSorted, insertSorted, hle _ _ _ _ ha hb]
      split
      · exact .cons ha (.cons hb hrest)
      · exact .cons hb ih

/-- Lists of partners are sorted alike if partners have the same rank. -/
theorem forall₂_sortBy (hle : ∀ a b a' b', r a a' → r b b' → le a b = le' a' b')
    {l : List α} {l' : List β} (h : List.Forall₂ r l l') :
    List.Forall₂ r (sortBy le l) (sortBy le' l') := by
  induction h with
  | nil => exact .nil
  | cons ha _ ih => exact forall₂_insertSorted hle ha ih

/-- Sorting by what belongs to the elements sorts what belongs to them. -/
theorem map_sortBy (f : α → β) (le : β → β → Bool) (l : List α) :
    (sortBy (fun a b => le (f a) (f b)) l).map f = sortBy le (l.map f) := by
  have hrank : ∀ a b a' b', f a = a' → f b = b' → le (f a) (f b) = le a' b' := by
    rintro a b _ _ rfl rfl
    rfl
  have hpartners : List.Forall₂ (fun a b => f a = b) l (l.map f) := by
    rw [List.forall₂_map_right_iff]
    exact List.forall₂_same.mpr fun _ _ => rfl
  have hsorted := forall₂_sortBy hrank hpartners
  rwa [← List.forall₂_map_left_iff (R := Eq), List.forall₂_eq_eq_eq] at hsorted

end

end Phrasebook
