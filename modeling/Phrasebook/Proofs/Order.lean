import Mathlib.Data.Prod.Lex
import Mathlib.Data.String.Basic
import Mathlib.Order.BooleanAlgebra.Basic
import Phrasebook.Locale.Set
import Phrasebook.Proofs.Sorting

/-!
# The orders of texts and locales

Texts and locales are ordered totally, so that sorting and leaving out repetitions gives each
collection of them one list: the elements in strictly increasing order.
-/

namespace Phrasebook

namespace Text

theorem precedes_total (a b : String) : precedes a b || precedes b a := by
  simpa [precedes] using le_total a b

theorem precedes_trans (a b c : String) (hab : precedes a b) (hbc : precedes b c) :
    precedes a c := by
  rw [precedes, decide_eq_true_eq] at hab hbc ⊢
  exact hab.trans hbc

section

variable {α : Type} (name : α → String)

/-- Things sorted by their names stand in the order of the names. -/
theorem pairwise_sortBy_name (l : List α) :
    (sortBy (fun a b => precedes (name a) (name b)) l).Pairwise (name · ≤ name ·) := by
  let le : α → α → Bool := fun a b => precedes (name a) (name b)
  have total : ∀ a b, le a b || le b a := fun a b => precedes_total (name a) (name b)
  have trans : ∀ a b c, le a b → le b c → le a c := fun a b c =>
    precedes_trans (name a) (name b) (name c)
  exact (pairwise_sortBy total trans l).imp fun h => of_decide_eq_true h

/-- Things whose names differ are sorted alike, in whatever order they come. -/
theorem sortBy_name_eq_of_perm {l₁ l₂ : List α} (h : l₁.Perm l₂)
    (hname : ∀ a ∈ l₁, ∀ b ∈ l₁, name a = name b → a = b) :
    sortBy (fun a b => precedes (name a) (name b)) l₁ =
      sortBy (fun a b => precedes (name a) (name b)) l₂ := by
  let le : α → α → Bool := fun a b => precedes (name a) (name b)
  have total : ∀ a b, le a b || le b a := fun a b => precedes_total (name a) (name b)
  have trans : ∀ a b c, le a b → le b c → le a c := fun a b c =>
    precedes_trans (name a) (name b) (name c)
  refine sortBy_eq_of_perm total trans h fun a ha b hb hab hba => ?_
  exact hname a ha b hb (le_antisymm (of_decide_eq_true hab) (of_decide_eq_true hba))

end

/-- Sorting and leaving out repetitions keeps the texts. -/
@[simp] theorem mem_sortedDistinct {texts : List String} {text : String} :
    text ∈ sortedDistinct texts ↔ text ∈ texts := by
  rw [sortedDistinct, mem_sortBy, List.mem_eraseDups]

end Text

namespace Locale

/-- The place of a locale in the lexicographic order of language, presence of a region, region. -/
def rank (l : Locale) : String ×ₗ Bool ×ₗ String :=
  toLex (l.language, toLex (l.region.isSome, l.region.getD ""))

/-- Different locales have different places. -/
theorem rank_injective : Function.Injective rank := by
  rintro ⟨language, region⟩ ⟨language', region'⟩ h
  obtain ⟨hl, h⟩ := Prod.mk.inj (toLex.injective h)
  obtain ⟨hp, hr⟩ := Prod.mk.inj (toLex.injective h)
  cases region <;> cases region' <;> simp_all

/-- A locale comes before another exactly if its place does. -/
theorem lt_iff_rank {a b : Locale} : lt a b = true ↔ a.rank < b.rank := by
  simp only [lt, Bool.or_eq_true, Bool.and_eq_true, decide_eq_true_eq, beq_iff_eq]
  rw [rank, rank, Prod.Lex.toLex_lt_toLex, Prod.Lex.toLex_lt_toLex]
  rfl

theorem le_iff_rank {a b : Locale} : le a b = true ↔ a.rank ≤ b.rank := by
  rw [le, Bool.not_eq_true', ← Bool.not_eq_true, lt_iff_rank, not_lt]

/-- Of two locales one comes before the other or is the other. -/
theorem le_or_le (a b : Locale) : le a b || le b a := by
  rw [Bool.or_eq_true, le_iff_rank, le_iff_rank]
  exact le_total a.rank b.rank

/-- The order of locales is transitive. -/
theorem le_of_le_of_le (a b c : Locale) (hab : le a b) (hbc : le b c) : le a c := by
  rw [le_iff_rank] at hab hbc ⊢
  exact hab.trans hbc

end Locale

/-- Leaving out repetitions leaves none. -/
theorem nodup_eraseDups {α : Type} [BEq α] [LawfulBEq α] (l : List α) : l.eraseDups.Nodup := by
  induction hn : l.length using Nat.strong_induction_on generalizing l with
  | _ n ih =>
      cases l with
      | nil => simp
      | cons a rest =>
          rw [List.eraseDups_cons, List.nodup_cons]
          constructor
          · simp
          · refine ih _ ?_ _ rfl
            have hle := List.length_filter_le (fun b => !b == a) rest
            rw [List.length_cons] at hn
            omega

namespace LocaleSet

/-- The set of a list has the elements of the list. -/
@[simp] theorem mem_ofList {locales : List Locale} {l : Locale} :
    l ∈ (ofList locales).locales ↔ l ∈ locales := by
  rw [ofList, mem_sortBy, List.mem_eraseDups]

/-- The locales of a set stand in strictly increasing order. -/
theorem pairwise_ofList (locales : List Locale) :
    (ofList locales).locales.Pairwise (Locale.lt · · = true) := by
  have hle := pairwise_sortBy Locale.le_or_le Locale.le_of_le_of_le locales.eraseDups
  have hne : (ofList locales).locales.Nodup :=
    (sortBy_perm Locale.le locales.eraseDups).nodup_iff.mpr (nodup_eraseDups locales)
  refine (hle.and hne).imp ?_
  rintro a b ⟨hab, hne⟩
  rw [Locale.lt_iff_rank]
  exact lt_of_le_of_ne (Locale.le_iff_rank.mp hab) (Locale.rank_injective.ne hne)

/-- The languages of a set are those of its locales. -/
@[simp] theorem mem_languages {set : LocaleSet} {language : String} :
    language ∈ set.languages ↔ ∃ l ∈ set.locales, l.language = language := by
  rw [languages, Text.mem_sortedDistinct, List.mem_map]

/-- The regions of a set are those of its locales. -/
@[simp] theorem mem_regions {set : LocaleSet} {region : String} :
    region ∈ set.regions ↔ ∃ l ∈ set.locales, l.region = some region := by
  rw [regions, Text.mem_sortedDistinct, List.mem_filterMap]

end LocaleSet

end Phrasebook
