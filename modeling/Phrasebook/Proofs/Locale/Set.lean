import Phrasebook.Proofs.Order

/-!
# The canonical form of sets of locales

The comparisons of locales are one total order, in which no two locales are equal in rank: the
absence of a region is told from every region, even from the empty one. So the locales of a list
have one arrangement in strictly increasing order, and sets are equal exactly if they have the same
locales, in whatever order and however often these were given.
-/

namespace Phrasebook

/-- Comparisons that are one total order: two of them are strict, two are not, and two look in the
other direction. -/
structure IsTotalOrder {α : Type} (lt le gt ge : α → α → Bool) : Prop where
  irrefl : ∀ a, lt a a = false
  trans : ∀ a b c, lt a b = true → lt b c = true → lt a c = true
  trichotomy : ∀ a b, lt a b = true ∨ a = b ∨ gt a b = true
  antisymm : ∀ a b, le a b = true → le b a = true → a = b
  le_iff : ∀ a b, le a b = true ↔ lt a b = true ∨ a = b
  gt_iff : ∀ a b, gt a b = true ↔ lt b a = true
  ge_iff : ∀ a b, ge a b = true ↔ gt a b = true ∨ a = b

namespace Text

/-- Sorted texts without repetitions stand in strictly increasing order. -/
theorem pairwise_sortedDistinct (texts : List String) :
    (sortedDistinct texts).Pairwise (· < ·) := by
  have hle : (sortedDistinct texts).Pairwise (· ≤ ·) :=
    pairwise_sortBy_name (fun text => text) texts.eraseDups
  have hne : (sortedDistinct texts).Nodup :=
    (sortBy_perm precedes texts.eraseDups).nodup_iff.mpr (nodup_eraseDups texts)
  exact (hle.and hne).imp fun ⟨hle, hne⟩ => lt_of_le_of_ne hle hne

end Text

namespace Locale

/-- Locales that are not after each other are the same. -/
theorem eq_of_le_of_le {a b : Locale} (hab : le a b = true) (hba : le b a = true) : a = b :=
  rank_injective (le_antisymm (le_iff_rank.mp hab) (le_iff_rank.mp hba))

/-- A locale is not after another one exactly if it is before it or the same. -/
theorem le_iff {a b : Locale} : le a b = true ↔ lt a b = true ∨ a = b := by
  rw [le_iff_rank, lt_iff_rank, le_iff_lt_or_eq, rank_injective.eq_iff]

/-- A language alone comes before its regions. -/
theorem lt_of_region (language region : String) :
    lt ⟨language, none⟩ ⟨language, some region⟩ = true := by
  simp [lt, sortKey]

/-- The comparisons of locales are one total order. -/
theorem isTotalOrder : IsTotalOrder lt le gt ge where
  irrefl a := by
    rw [← Bool.not_eq_true, lt_iff_rank]
    exact lt_irrefl a.rank
  trans a b c hab hbc := by
    rw [lt_iff_rank] at hab hbc ⊢
    exact hab.trans hbc
  trichotomy a b := by
    rw [gt, lt_iff_rank, lt_iff_rank, ← rank_injective.eq_iff]
    exact lt_trichotomy a.rank b.rank
  antisymm _ _ := eq_of_le_of_le
  le_iff _ _ := le_iff
  gt_iff _ _ := Iff.rfl
  ge_iff _ _ := le_iff.trans (or_congr Iff.rfl eq_comm)

end Locale

namespace LocaleSet

/-- A set gives the locales of a list in order, with their languages and regions. -/
structure Arranges (set : LocaleSet) (locales : List Locale) : Prop where
  /-- The locales stand in strictly increasing order. -/
  sorted : set.locales.Pairwise (Locale.lt · · = true)
  /-- The locales are those of the list. -/
  mem : ∀ l, l ∈ set.locales ↔ l ∈ locales
  /-- The default is the least locale, which has no region if its language occurs alone. -/
  default : locales ≠ [] → ∃ l ∈ locales, set.default = .ok l ∧
    (∀ other ∈ locales, l.le other = true) ∧ (⟨l.language, none⟩ ∈ locales → l.region = none)
  /-- The languages stand in strictly increasing order. -/
  languages_sorted : set.languages.Pairwise (· < ·)
  /-- The languages are those that occur. -/
  mem_languages : ∀ language, language ∈ set.languages ↔ ∃ l ∈ locales, l.language = language
  /-- The regions stand in strictly increasing order. -/
  regions_sorted : set.regions.Pairwise (· < ·)
  /-- The regions are those that occur. -/
  mem_regions : ∀ region, region ∈ set.regions ↔ ∃ l ∈ locales, l.region = some region

/-- A list has a least locale, which is the default of its set. -/
theorem exists_default_ofList {locales : List Locale} (h : locales ≠ []) :
    ∃ l ∈ locales, (ofList locales).default = .ok l ∧ ∀ other ∈ locales, l.le other = true := by
  have hsorted := pairwise_ofList locales
  cases hset : (ofList locales).locales with
  | nil =>
      obtain ⟨l, hl⟩ := List.exists_mem_of_ne_nil locales h
      rw [← mem_ofList, hset] at hl
      cases hl
  | cons l rest =>
      have hmem : l ∈ locales := by
        rw [← mem_ofList, hset]
        exact List.mem_cons_self ..
      refine ⟨l, hmem, by rw [default, hset], fun other hother => ?_⟩
      rw [← mem_ofList, hset] at hother
      rw [hset, List.pairwise_cons] at hsorted
      rw [Locale.le_iff]
      rcases List.mem_cons.mp hother with rfl | hrest
      · exact .inr rfl
      · exact .inl (hsorted.1 other hrest)

/-- A locale that is not after its language alone has no region. -/
theorem region_eq_none_of_le {l : Locale} (h : l.le ⟨l.language, none⟩ = true) :
    l.region = none := by
  obtain ⟨language, region⟩ := l
  cases region with
  | none => rfl
  | some region =>
      have hlt := Locale.lt_of_region language region
      rw [Locale.le, hlt] at h
      cases h

/-- The set of a list arranges the list. -/
theorem arranges_ofList (locales : List Locale) : (ofList locales).Arranges locales where
  sorted := pairwise_ofList locales
  mem _ := mem_ofList
  default h := by
    obtain ⟨l, hl, hdefault, hleast⟩ := exists_default_ofList h
    exact ⟨l, hl, hdefault, hleast, fun halone => region_eq_none_of_le (hleast _ halone)⟩
  languages_sorted := Text.pairwise_sortedDistinct _
  mem_languages language := by simp
  regions_sorted := Text.pairwise_sortedDistinct _
  mem_regions region := by simp

/-- Sets are equal exactly if they have the same locales. -/
theorem ofList_eq_iff {locales locales' : List Locale} :
    ofList locales = ofList locales' ↔ ∀ l, l ∈ locales ↔ l ∈ locales' := by
  constructor
  · intro h l
    rw [← mem_ofList, h, mem_ofList]
  · intro h
    have hperm : locales.eraseDups.Perm locales'.eraseDups := by
      rw [List.perm_ext_iff_of_nodup (nodup_eraseDups locales) (nodup_eraseDups locales')]
      simpa using h
    exact congrArg mk (sortBy_eq_of_perm Locale.le_or_le Locale.le_of_le_of_le hperm
      fun _ _ _ _ => Locale.eq_of_le_of_le)

/-- Sets of locales are a canonical form of lists: the comparisons are one total order in which a
language comes before its regions, a set arranges its list in this order, and lists with the same
locales give the same set. -/
theorem ofList_canonical :
    IsTotalOrder Locale.lt Locale.le Locale.gt Locale.ge ∧
    (∀ language region, Locale.lt ⟨language, none⟩ ⟨language, some region⟩ = true) ∧
    ∀ locales, (ofList locales).Arranges locales ∧
      ∀ locales', ofList locales = ofList locales' ↔ ∀ l, l ∈ locales ↔ l ∈ locales' :=
  ⟨Locale.isTotalOrder, Locale.lt_of_region,
    fun locales => ⟨arranges_ofList locales, fun _ => ofList_eq_iff⟩⟩

/-- An empty region is a region: it comes behind its language and before all other regions. -/
example : (ofList [⟨"en", some "gb"⟩, ⟨"en", some ""⟩, ⟨"de", some "at"⟩, ⟨"en", none⟩]).locales =
    [⟨"de", some "at"⟩, ⟨"en", none⟩, ⟨"en", some ""⟩, ⟨"en", some "gb"⟩] := by
  decide

end LocaleSet

end Phrasebook
