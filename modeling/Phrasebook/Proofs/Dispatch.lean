import Mathlib.Data.String.Basic
import Phrasebook.Dispatch
import Phrasebook.Proofs.Sorting

/-!
# The lookup rule of a dispatch

A dispatch is built by adding arms, sorting and leaving out repetitions, and is read by its first
fitting arm. What it answers is told without any of this: the first wording for exactly the locale,
else the first one for its language alone, else, where the policy looks for the same language, the
first one of that language, else the first one of all.
-/

namespace Phrasebook

/-- The language of a locale without its region. -/
def Locale.alone (locale : Locale) : Locale := ⟨locale.language, none⟩

namespace Message

/-- The first wording for exactly a locale with a region. -/
def regional? (m : Message) (locale : Locale) : Option Wording :=
  if locale.region.isSome then m.wordings.find? (·.locale = locale) else none

/-- The first wording for the language of a locale alone. -/
def baseline? (m : Message) (locale : Locale) : Option Wording :=
  m.wordings.find? (·.locale = locale.alone)

/-- The first wording of the language of a locale, where a policy allows it to stand in. -/
def sibling? (m : Message) (policy : Policy) (locale : Locale) : Option Wording :=
  match policy with
  | .firstListed => none
  | .sameLanguage => m.wordings.find? (·.locale.language = locale.language)

/-- The wording that serves a locale. -/
def serving (m : Message) (policy : Policy) (locale : Locale) : Wording :=
  ((m.regional? locale).or ((m.baseline? locale).or (m.sibling? policy locale))).getD m.first

end Message

namespace Arm

theorem template_comp_ofWording : template ∘ ofWording = Wording.template := rfl

/-- What the order of arms compares. -/
theorem precedes_iff {a b : Arm} : precedes a b = true ↔ a.language < b.language ∨
    a.language = b.language ∧ (a.region.isSome = true ∨ b.region = none) := by
  simp only [precedes, Bool.or_eq_true, decide_eq_true_eq, Bool.and_eq_true, beq_iff_eq,
    Option.isNone_iff_eq_none]

/-- Of two arms one may stand before the other. -/
theorem precedes_total (a b : Arm) : precedes a b || precedes b a := by
  rw [Bool.or_eq_true, precedes_iff, precedes_iff]
  rcases lt_trichotomy a.language b.language with h | h | h
  · exact Or.inl (Or.inl h)
  · cases ha : a.region with
    | none => exact Or.inr (Or.inr ⟨h.symm, Or.inr rfl⟩)
    | some region => exact Or.inl (Or.inr ⟨h, Or.inl rfl⟩)
  · exact Or.inr (Or.inl h)

/-- The order of arms is transitive. -/
theorem precedes_trans (a b c : Arm) (hab : precedes a b) (hbc : precedes b c) :
    precedes a c := by
  rw [precedes_iff] at hab hbc ⊢
  rcases hab with hab | ⟨hab, habr⟩
  · rcases hbc with hbc | ⟨hbc, -⟩
    · exact Or.inl (hab.trans hbc)
    · exact Or.inl (hbc ▸ hab)
  · rcases hbc with hbc | ⟨hbc, hbcr⟩
    · exact Or.inl (hab ▸ hbc)
    · refine Or.inr ⟨hab.trans hbc, ?_⟩
      rcases habr with ha | hb
      · exact Or.inl ha
      · exact Or.inr (hbcr.resolve_left (by simp [hb]))

/-- An arm fits a locale if it is for exactly this locale, or for its language alone. -/
theorem fits_eq (arm : Arm) (locale : Locale) : arm.fits locale =
    (decide (locale.region.isSome ∧ arm.locale = locale) ||
      decide (arm.locale = locale.alone)) := by
  obtain ⟨language, region⟩ := locale
  obtain ⟨language', region', template⟩ := arm
  rw [Bool.eq_iff_iff]
  by_cases h : language = language'
  · subst h
    cases region <;> cases region' <;> simp [fits, Arm.locale, Locale.alone]
  · simp [fits, Arm.locale, Locale.alone, h, Ne.symm h]

/-- Leaving out arms whose locale came up before does not change which arm is found first. -/
theorem find?_reachable (p : Locale → Bool) (seen : List Locale) (arms : List Arm)
    (h : ∀ locale ∈ seen, p locale = false) :
    (reachable seen arms).find? (p ·.locale) = arms.find? (p ·.locale) := by
  induction arms generalizing seen with
  | nil => rfl
  | cons arm rest ih =>
      rw [reachable]
      by_cases hs : seen.contains arm.locale = true
      · have hp : p arm.locale = false := h arm.locale (by simpa using hs)
        rw [if_pos hs, ih seen h, List.find?_cons, hp]
      · rw [if_neg hs, List.find?_cons, List.find?_cons]
        cases hp : p arm.locale with
        | true => rfl
        | false =>
            apply ih
            intro locale hl
            rcases List.mem_cons.mp hl with rfl | hl
            · exact hp
            · exact h locale hl

/-- Leaving out repetitions adds no arms. -/
private theorem mem_of_mem_reachable {seen : List Locale} {arms : List Arm} {arm : Arm}
    (h : arm ∈ reachable seen arms) : arm ∈ arms := by
  induction arms generalizing seen with
  | nil => simp [reachable] at h
  | cons first rest ih =>
      rw [reachable] at h
      split at h
      · exact List.mem_cons_of_mem first (ih h)
      · rcases List.mem_cons.mp h with rfl | h
        · exact List.mem_cons_self ..
        · exact List.mem_cons_of_mem first (ih h)

/-- The arms added for uncovered languages are arms of the list without their regions. -/
theorem exists_of_mem_baselines {covered : List String} {arms : List Arm} {arm : Arm}
    (h : arm ∈ baselines covered arms) : ∃ a ∈ arms, arm = ⟨a.language, none, a.template⟩ := by
  induction arms generalizing covered with
  | nil => simp [baselines] at h
  | cons first rest ih =>
      have hrest {covered : List String} (h : arm ∈ baselines covered rest) :
          ∃ a ∈ first :: rest, arm = ⟨a.language, none, a.template⟩ := by
        obtain ⟨a, ha, he⟩ := ih h
        exact ⟨a, List.mem_cons_of_mem first ha, he⟩
      rw [baselines] at h
      split at h
      · exact hrest h
      · rcases List.mem_cons.mp h with rfl | h
        · exact ⟨first, List.mem_cons_self .., rfl⟩
        · exact hrest h

/-- The arms added for uncovered languages are for no region. -/
private theorem region_of_mem_baselines {covered : List String} {arms : List Arm} {arm : Arm}
    (h : arm ∈ baselines covered arms) : arm.region = none := by
  obtain ⟨a, -, rfl⟩ := exists_of_mem_baselines h
  rfl

/-- The arms added for uncovered languages hold, for each of these, its first template. -/
private theorem find?_baselines (covered : List String) (arms : List Arm) (language : String) :
    (baselines covered arms).find? (·.locale = ⟨language, none⟩) =
      if language ∈ covered then none
      else (arms.find? (·.language = language)).map fun arm => ⟨language, none, arm.template⟩ := by
  induction arms generalizing covered with
  | nil => simp [baselines]
  | cons arm rest ih =>
      rw [baselines]
      by_cases hc : arm.language ∈ covered
      · rw [if_pos (by simpa using hc), ih]
        by_cases hl : language ∈ covered
        · simp only [hl, if_true]
        · -- A covered arm is not of the language that is looked for.
          have hne : arm.language ≠ language := fun he => hl (he ▸ hc)
          simp only [hl, if_false, List.find?_cons, hne, decide_false]
      · rw [if_neg (by simpa using hc), List.find?_cons, ih]
        by_cases he : arm.language = language
        · subst he
          simp [Arm.locale, hc]
        · have hlocale : ¬ Arm.locale ⟨arm.language, none, arm.template⟩ = ⟨language, none⟩ := by
            simp [Arm.locale, he]
          simp only [hlocale, decide_false, List.mem_cons, Ne.symm he, false_or, List.find?_cons,
            he]

end Arm

namespace Dispatch

/-- The search for a locale among sorted candidates prefers the arms for exactly this locale. -/
theorem find?_sortedCandidates (m : Message) (policy : Policy) (locale : Locale) :
    (sortedCandidates m policy).find? (·.fits locale) =
      ((candidates m policy).find? fun arm => locale.region.isSome ∧ arm.locale = locale).or
        ((candidates m policy).find? (·.locale = locale.alone)) := by
  let p : Arm → Bool := fun arm => locale.region.isSome ∧ arm.locale = locale
  let q : Arm → Bool := fun arm => arm.locale = locale.alone
  have hpq : ∀ a b, p a = true → q b = true → Arm.precedes b a = false := by
    intro a b ha hb
    obtain ⟨hr, rfl⟩ := of_decide_eq_true ha
    obtain ⟨hl, hn⟩ := Locale.mk.inj (of_decide_eq_true hb)
    rw [← Bool.not_eq_true, Arm.precedes_iff]
    rintro (hlt | ⟨-, hb | ha⟩)
    · exact absurd hl hlt.ne
    · rw [hn] at hb
      exact Bool.noConfusion hb
    · exact absurd hr (by simp [Arm.locale, ha])
  have hp : ∀ a b, p a = true → p b = true → Arm.precedes a b = true := by
    intro a b ha hb
    obtain ⟨hr, ha⟩ := of_decide_eq_true ha
    obtain ⟨-, hb⟩ := of_decide_eq_true hb
    obtain ⟨hl, hregion⟩ := Locale.mk.inj (ha.trans hb.symm)
    exact Arm.precedes_iff.mpr (Or.inr ⟨hl, Or.inl (by rw [← ha] at hr; exact hr)⟩)
  have hq : ∀ a b, q a = true → q b = true → Arm.precedes a b = true := by
    intro a b ha hb
    obtain ⟨hla, -⟩ := Locale.mk.inj (of_decide_eq_true ha)
    obtain ⟨hlb, hnb⟩ := Locale.mk.inj (of_decide_eq_true hb)
    exact Arm.precedes_iff.mpr (Or.inr ⟨hla.trans hlb.symm, Or.inr hnb⟩)
  have hsorted := pairwise_sortBy Arm.precedes_total Arm.precedes_trans (candidates m policy)
  calc (sortedCandidates m policy).find? (·.fits locale)
      = (sortedCandidates m policy).find? (fun arm => p arm || q arm) := by
        simp only [Arm.fits_eq, p, q]
    _ = ((sortedCandidates m policy).find? p).or ((sortedCandidates m policy).find? q) :=
        find?_or_of_pairwise hsorted hpq
    _ = ((candidates m policy).find? p).or ((candidates m policy).find? q) := by
        rw [sortedCandidates, find?_sortBy hp, find?_sortBy hq]

/-- The candidates for exactly a locale with a region are wordings: no arm is added for them. -/
theorem find?_candidates_regional (m : Message) (policy : Policy) (locale : Locale) :
    ((candidates m policy).find? fun arm => locale.region.isSome ∧ arm.locale = locale) =
      (m.regional? locale).map Arm.ofWording := by
  have hwordings : ((m.wordings.map Arm.ofWording).find? fun arm =>
      locale.region.isSome ∧ arm.locale = locale) = (m.regional? locale).map Arm.ofWording := by
    rw [List.find?_map, Message.regional?]
    by_cases hr : locale.region.isSome = true
    · simp only [hr, true_and, if_true]
      rfl
    · simp [hr]
  cases policy with
  | firstListed => exact hwordings
  | sameLanguage =>
      rw [candidates, List.find?_append, hwordings]
      apply Option.or_eq_left_of_none
      rw [List.find?_eq_none]
      intro arm harm ha
      obtain ⟨hr, rfl⟩ := of_decide_eq_true ha
      exact absurd hr (by simp [Arm.locale, Arm.region_of_mem_baselines harm])

/-- The candidates for a language alone are its wordings, and behind them the added arm. -/
theorem template_find?_candidates_alone (m : Message) (policy : Policy) (locale : Locale) :
    ((candidates m policy).find? (·.locale = locale.alone)).map Arm.template =
      ((m.baseline? locale).or (m.sibling? policy locale)).map Wording.template := by
  let arms := m.wordings.map Arm.ofWording
  have hwordings : arms.find? (·.locale = locale.alone) =
      (m.baseline? locale).map Arm.ofWording := by
    rw [List.find?_map]
    rfl
  cases policy with
  | firstListed =>
      rw [candidates, hwordings, Option.map_map, Message.sibling?, Option.or_none]
      rfl
  | sameLanguage =>
      rw [candidates, List.find?_append, hwordings]
      cases hb : m.baseline? locale with
      | some wording => rfl
      | none =>
          -- Without a wording for the language alone, the language is not covered.
          have huncovered : locale.language ∉ (arms.filter (·.region.isNone)).map Arm.language := by
            intro hmem
            obtain ⟨arm, harm, hl⟩ := List.mem_map.mp hmem
            obtain ⟨harm, hr⟩ := List.mem_filter.mp harm
            rw [hb, Option.map_none, List.find?_eq_none] at hwordings
            refine hwordings arm harm (decide_eq_true ?_)
            simp [Arm.locale, Locale.alone, hl, Option.isNone_iff_eq_none.mp hr]
          have hadded := Arm.find?_baselines ((arms.filter (·.region.isNone)).map Arm.language)
            arms locale.language
          rw [if_neg huncovered] at hadded
          rw [Option.map_none, Option.none_or, Option.none_or]
          change (List.find? (·.locale = ⟨locale.language, none⟩) _).map Arm.template = _
          rw [hadded, List.find?_map, Option.map_map, Option.map_map]
          rfl

/-- The first fitting arm of a dispatch holds the template of the first wording that the rule names,
if the rule names one before the last resort. -/
theorem template_find?_arms (m : Message) (policy : Policy) (locale : Locale) :
    ((ofMessage m policy).arms.find? (·.fits locale)).map Arm.template =
      ((m.regional? locale).or ((m.baseline? locale).or (m.sibling? policy locale))).map
        Wording.template := by
  have hfind : (ofMessage m policy).arms.find? (·.fits locale) =
      (sortedCandidates m policy).find? (·.fits locale) := by
    simp only [Arm.fits_eq]
    exact Arm.find?_reachable
      (fun l => decide (locale.region.isSome ∧ l = locale) || decide (l = locale.alone))
      [] _ (by simp)
  rw [hfind, find?_sortedCandidates, Option.map_or, find?_candidates_regional,
    template_find?_candidates_alone, Option.map_map, Arm.template_comp_ofWording]
  exact Option.map_or.symm

/-- The selected template is that of the first fitting arm, or the default. -/
theorem select_eq (d : Dispatch) (locale : Locale) :
    d.select locale = ((d.arms.find? (·.fits locale)).map Arm.template).getD d.default := by
  unfold select
  cases d.arms.find? (·.fits locale) <;> rfl

/-- Every arm of a dispatch holds a wording of the message, for its locale or for its language. -/
theorem exists_wording_of_mem_arms {m : Message} {policy : Policy} {arm : Arm}
    (h : arm ∈ (ofMessage m policy).arms) : ∃ w ∈ m.wordings, arm.template = w.template ∧
      (arm.locale = w.locale ∨ arm.locale = w.locale.alone) := by
  have hcandidate : arm ∈ candidates m policy := mem_sortBy.mp (Arm.mem_of_mem_reachable h)
  have hwording {arm : Arm} (h : arm ∈ m.wordings.map Arm.ofWording) :
      ∃ w ∈ m.wordings, arm = Arm.ofWording w := by
    obtain ⟨w, hw, rfl⟩ := List.mem_map.mp h
    exact ⟨w, hw, rfl⟩
  cases policy with
  | firstListed =>
      obtain ⟨w, hw, rfl⟩ := hwording hcandidate
      exact ⟨w, hw, rfl, .inl rfl⟩
  | sameLanguage =>
      rcases List.mem_append.mp hcandidate with h | h
      · obtain ⟨w, hw, rfl⟩ := hwording h
        exact ⟨w, hw, rfl, .inl rfl⟩
      · obtain ⟨a, ha, rfl⟩ := Arm.exists_of_mem_baselines h
        obtain ⟨w, hw, rfl⟩ := hwording ha
        exact ⟨w, hw, rfl, .inr rfl⟩

/-- A dispatch gives every locale a wording of the message. -/
theorem exists_wording_select (m : Message) (policy : Policy) (locale : Locale) :
    ∃ w ∈ m.wordings, (ofMessage m policy).select locale = w.template := by
  unfold select
  cases hf : (ofMessage m policy).arms.find? (·.fits locale) with
  | none => exact ⟨m.first, List.mem_cons_self .., rfl⟩
  | some arm =>
      obtain ⟨w, hw, ht, -⟩ := exists_wording_of_mem_arms (List.mem_of_find?_eq_some hf)
      exact ⟨w, hw, ht⟩

/-- A dispatch gives every locale the wording that the lookup rule names. -/
theorem select_ofMessage (m : Message) (policy : Policy) (locale : Locale) :
    (ofMessage m policy).select locale = (m.serving policy locale).template := by
  rw [select_eq, template_find?_arms]
  exact Option.getD_map Wording.template m.first _

end Dispatch

end Phrasebook
