import Phrasebook.Proofs.Compilation.Coverage

/-!
# The arms of a dispatch

No arm of a dispatch stands in the way of another one. The arms are sorted by language, and the arm
for a language alone is the last one of its language, so all arms for its regions are tried before
it. No two arms are for the same locale, and each one decides what its own locale is served with.
-/

namespace Phrasebook

namespace Arm

variable {seen : List Locale} {arms : List Arm}

/-- Leaving out repetitions keeps the order of the arms. -/
private theorem reachable_sublist (seen : List Locale) (arms : List Arm) :
    (reachable seen arms).Sublist arms := by
  induction arms generalizing seen with
  | nil => exact .slnil
  | cons arm rest ih =>
      rw [reachable]
      split
      · exact (ih seen).cons arm
      · exact (ih (arm.locale :: seen)).cons_cons arm

/-- An arm that is kept is for none of the locales that came up before. -/
private theorem locale_not_mem_of_mem_reachable {arm : Arm} (h : arm ∈ reachable seen arms) :
    arm.locale ∉ seen := by
  induction arms generalizing seen with
  | nil => cases h
  | cons first rest ih =>
      rw [reachable] at h
      split at h
      · exact ih h
      · rename_i hfirst
        rcases List.mem_cons.mp h with rfl | h
        · simpa using hfirst
        · exact fun hmem => ih h (List.mem_cons_of_mem first.locale hmem)

/-- The arms that are kept are for different locales. -/
theorem nodup_locale_reachable (seen : List Locale) (arms : List Arm) :
    ((reachable seen arms).map locale).Nodup := by
  induction arms generalizing seen with
  | nil => exact .nil
  | cons arm rest ih =>
      rw [reachable]
      split
      · exact ih seen
      · rw [List.map_cons, List.nodup_cons]
        refine ⟨fun hmem => ?_, ih (arm.locale :: seen)⟩
        obtain ⟨other, hother, heq⟩ := List.mem_map.mp hmem
        exact locale_not_mem_of_mem_reachable hother (heq ▸ List.mem_cons_self ..)

/-- Arms for the same locale may stand in either order. -/
private theorem precedes_of_locale_eq {a b : Arm} (h : a.locale = b.locale) :
    precedes a b = true := by
  obtain ⟨hlanguage, hregion⟩ := Locale.mk.inj h
  refine precedes_iff.mpr (.inr ⟨hlanguage, ?_⟩)
  cases hb : b.region with
  | none => exact .inr rfl
  | some region => exact .inl (by rw [hregion, hb]; rfl)

/-- An arm serves the locale that it is for. -/
theorem fits_locale (arm : Arm) : arm.fits arm.locale = true := by
  simp [fits, locale]

end Arm

namespace Dispatch

/-- What the arms of a dispatch are to a message under a policy. -/
structure Unambiguous (m : Message) (policy : Policy) (d : Dispatch) : Prop where
  /-- The arms are sorted by language, and none follows the arm for its language alone. -/
  sorted : d.arms.Pairwise fun a b =>
    a.language < b.language ∨ a.language = b.language ∧ a.region.isSome = true
  /-- No two arms are for the same language and region. -/
  distinct : (d.arms.map Arm.locale).Nodup
  /-- The arms are for the languages of the message. -/
  language : ∀ arm ∈ d.arms, arm.language ∈ m.languages
  /-- At most one arm is for a language alone. -/
  baseline_le : ∀ language, (d.arms.map Arm.locale).count ⟨language, none⟩ ≤ 1
  /-- Where the policy looks for the same language, exactly one is for each language alone. -/
  baseline_eq : policy = .sameLanguage → ∀ language ∈ m.languages,
    (d.arms.map Arm.locale).count ⟨language, none⟩ = 1
  /-- Every locale of the message has an arm, with the first wording for it. -/
  complete : ∀ locale ∈ m.locales, ∃ w, m.wordings.find? (·.locale = locale) = some w ∧
    ⟨locale.language, locale.region, w.template⟩ ∈ d.arms
  /-- Every arm is the one that decides about its own locale. -/
  decided : ∀ arm ∈ d.arms, d.arms.find? (·.fits arm.locale) = some arm ∧
    d.select arm.locale = arm.template

variable (m : Message) (policy : Policy)

/-- The arms of a dispatch are for different locales. -/
theorem nodup_locale_arms : ((ofMessage m policy).arms.map Arm.locale).Nodup :=
  Arm.nodup_locale_reachable [] (sortedCandidates m policy)

/-- The arms of a dispatch are sorted, and an arm for a language alone is the last of its
language. -/
theorem pairwise_arms : (ofMessage m policy).arms.Pairwise fun a b =>
    a.language < b.language ∨ a.language = b.language ∧ a.region.isSome = true := by
  have hsorted : (ofMessage m policy).arms.Pairwise fun a b => Arm.precedes a b = true :=
    (pairwise_sortBy Arm.precedes_total Arm.precedes_trans (candidates m policy)).sublist
      (Arm.reachable_sublist [] _)
  have hdistinct : (ofMessage m policy).arms.Pairwise fun a b => a.locale ≠ b.locale :=
    List.pairwise_map.mp (nodup_locale_arms m policy)
  refine (hsorted.and hdistinct).imp ?_
  rintro a b ⟨hab, hne⟩
  rcases Arm.precedes_iff.mp hab with hlt | ⟨hlanguage, hsome | hnone⟩
  · exact .inl hlt
  · exact .inr ⟨hlanguage, hsome⟩
  · -- Two arms for the language alone would be for the same locale.
    refine .inr ⟨hlanguage, Option.isSome_iff_ne_none.mpr fun ha => hne ?_⟩
    rw [Arm.locale, Arm.locale, hlanguage, ha, hnone]

/-- The arm of a dispatch for exactly a locale is the first candidate for it. -/
theorem find?_arms_locale (locale : Locale) :
    (ofMessage m policy).arms.find? (·.locale = locale) =
      (candidates m policy).find? (·.locale = locale) := by
  have hsame : ∀ a b : Arm, decide (a.locale = locale) = true → decide (b.locale = locale) = true →
      Arm.precedes a b = true := by
    intro a b ha hb
    exact Arm.precedes_of_locale_eq ((of_decide_eq_true ha).trans (of_decide_eq_true hb).symm)
  calc (ofMessage m policy).arms.find? (·.locale = locale)
      = (sortedCandidates m policy).find? (·.locale = locale) :=
        Arm.find?_reachable (fun l => decide (l = locale)) [] _ (by simp)
    _ = (candidates m policy).find? (·.locale = locale) := find?_sortBy hsame _

/-- The first candidate for a locale is the first wording for it, if there is one. -/
theorem find?_candidates_of_wording {locale : Locale} {w : Wording}
    (h : m.wordings.find? (·.locale = locale) = some w) :
    (candidates m policy).find? (·.locale = locale) = some (Arm.ofWording w) := by
  have hwordings : (m.wordings.map Arm.ofWording).find? (·.locale = locale) =
      some (Arm.ofWording w) := by
    rw [List.find?_map]
    exact congrArg (Option.map Arm.ofWording) h
  cases policy with
  | firstListed => exact hwordings
  | sameLanguage => rw [candidates, List.find?_append, hwordings, Option.some_or]

/-- The first wording for a locale of the message has an arm of the dispatch. -/
theorem exists_arm_of_mem_locales {locale : Locale} (h : locale ∈ m.locales) :
    ∃ w, m.wordings.find? (·.locale = locale) = some w ∧
      ⟨locale.language, locale.region, w.template⟩ ∈ (ofMessage m policy).arms := by
  obtain ⟨w', hw', heq⟩ := List.mem_map.mp h
  have hsome : (m.wordings.find? (·.locale = locale)).isSome = true :=
    List.find?_isSome.mpr ⟨w', hw', decide_eq_true heq⟩
  obtain ⟨w, hw⟩ := Option.isSome_iff_exists.mp hsome
  refine ⟨w, hw, ?_⟩
  have hfirst := List.find?_some hw
  have hlocale : w.locale = locale := of_decide_eq_true hfirst
  have harm := (find?_arms_locale m policy locale).trans (find?_candidates_of_wording m policy hw)
  have hmem := List.mem_of_find?_eq_some harm
  rwa [Arm.ofWording, hlocale] at hmem

variable {m policy}

/-- An arm is for a language of the message. -/
theorem language_mem_of_mem_arms {arm : Arm} (h : arm ∈ (ofMessage m policy).arms) :
    arm.language ∈ m.languages := by
  obtain ⟨w, hw, -, hlocale⟩ := exists_wording_of_mem_arms h
  refine Message.mem_languages.mpr ⟨w, hw, ?_⟩
  rcases hlocale with hlocale | hlocale <;> exact (congrArg Locale.language hlocale).symm

/-- The first arm that serves the locale of an arm is the arm itself: an arm before it is for
another language or for another region. -/
theorem find?_fits_locale {arm : Arm} (h : arm ∈ (ofMessage m policy).arms) :
    (ofMessage m policy).arms.find? (·.fits arm.locale) = some arm := by
  have hsorted := pairwise_arms m policy
  have hdistinct := nodup_locale_arms m policy
  obtain ⟨before, after, harms⟩ := List.append_of_mem h
  rw [harms] at hsorted hdistinct ⊢
  refine List.find?_eq_some_iff_append.mpr ⟨arm.fits_locale, before, after, rfl, ?_⟩
  intro other hother
  rw [Bool.not_eq_true', ← Bool.not_eq_true]
  intro hfits
  have horder := (List.pairwise_append.mp hsorted).2.2 other hother arm (List.mem_cons_self ..)
  have hne : other.locale ≠ arm.locale := by
    have hmaps := List.pairwise_map.mp hdistinct
    exact (List.pairwise_append.mp hmaps).2.2 other hother arm (List.mem_cons_self ..)
  rw [Arm.fits_eq, Bool.or_eq_true, decide_eq_true_eq, decide_eq_true_eq] at hfits
  rcases hfits with ⟨-, heq⟩ | halone
  · exact hne heq
  · obtain ⟨hlanguage, hregion⟩ := Locale.mk.inj halone
    rcases horder with hlt | ⟨-, hsome⟩
    · exact absurd hlanguage hlt.ne
    · rw [hregion] at hsome
      cases hsome

/-- A dispatch that looks for the same language has an arm for each language of its message
alone. -/
theorem baseline_mem_locale_arms {language : String} (h : language ∈ m.languages) :
    (⟨language, none⟩ : Locale) ∈ (ofMessage m .sameLanguage).arms.map Arm.locale := by
  have halone : (⟨language, none⟩ : Locale).language ∈ m.languages := h
  obtain ⟨arm, harm, -⟩ := exists_arm_of_language halone
  have hfits := List.find?_some harm
  rw [Arm.fits_eq, Bool.or_eq_true, decide_eq_true_eq, decide_eq_true_eq] at hfits
  rcases hfits with ⟨hsome, -⟩ | hlocale
  · cases hsome
  · exact List.mem_map.mpr ⟨arm, List.mem_of_find?_eq_some harm, hlocale⟩

/-- The arms of a dispatch are sorted, for different locales, complete, and each one decides about
its own locale. -/
theorem ofMessage_unambiguous (m : Message) (policy : Policy) :
    (ofMessage m policy).Unambiguous m policy where
  sorted := pairwise_arms m policy
  distinct := nodup_locale_arms m policy
  language := fun arm => language_mem_of_mem_arms
  baseline_le := fun language =>
    List.nodup_iff_count_le_one.mp (nodup_locale_arms m policy) ⟨language, none⟩
  baseline_eq := by
    rintro rfl language hlanguage
    exact List.count_eq_one_of_mem (nodup_locale_arms m .sameLanguage)
      (baseline_mem_locale_arms hlanguage)
  complete := fun locale => exists_arm_of_mem_locales m policy
  decided := by
    intro arm harm
    have hfind := find?_fits_locale harm
    refine ⟨hfind, ?_⟩
    rw [select_eq, hfind]
    rfl

end Dispatch

end Phrasebook
