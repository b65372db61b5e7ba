import Mathlib.Data.List.TakeWhile
import Phrasebook.Locale.Basic
import Phrasebook.Proofs.Text.Case
import Phrasebook.Proofs.Text.Line

/-!
# Locales that tags name

A tag is a language, possibly with a hyphen and a region behind it; no other text is read. A tag is
read in any case, but the locale that it names is always written small: its language in small
letters, digits and low lines of Basic Latin, its region, if there is one, in at least one small
letter or digit.
-/

namespace Phrasebook

/-- A region as a tag names it: small, not empty and without a low line. -/
structure IsRegion (text : String) : Prop where
  small : Text.IsSmall text
  nonempty : text ≠ ""
  unmarked : '_' ∉ text.toList

namespace Locale

/-- A locale as a tag names it. -/
structure Canonical (l : Locale) : Prop where
  language : Text.IsSmall l.language
  region : ∀ region ∈ l.region, IsRegion region

theorem isBasic_of_isAlphanum {c : Char} (h : c.isAlphanum = true) : Text.IsBasic c := by
  change (c.isUpper || c.isLower || c.isDigit) = true at h
  rw [Bool.or_eq_true, Bool.or_eq_true] at h
  rcases h with (hupper | hlower) | hdigit
  · have hcode : 65 ≤ c.toNat ∧ c.toNat ≤ 90 := of_decide_eq_true hupper
    exact Nat.lt_of_le_of_lt hcode.2 (by decide)
  · have hcode : c.toNat ≤ 122 := of_decide_eq_true (Bool.and_eq_true_iff.mp hlower).2
    exact Nat.lt_of_le_of_lt hcode (by decide)
  · have hcode : c.toNat ≤ 57 := of_decide_eq_true (Bool.and_eq_true_iff.mp hdigit).2
    exact Nat.lt_of_le_of_lt hcode (by decide)

theorem isBasic_of_isLanguageChar {c : Char} (h : isLanguageChar c = true) : Text.IsBasic c := by
  rw [isLanguageChar, Bool.or_eq_true] at h
  rcases h with h | h
  · exact isBasic_of_isAlphanum h
  · rw [beq_iff_eq.mp h]
    unfold Text.IsBasic
    decide

/-- No letter and no digit has a low line for its lower case. -/
theorem toLower_ne_lowLine {c : Char} (h : c.isAlphanum = true) : c.toLower ≠ '_' := by
  have hcode := Text.IsBasic.of_forall (p := fun c => c.isAlphanum = true → c.toLower ≠ '_')
    (by decide) (isBasic_of_isAlphanum h)
  exact hcode h

theorem isRegion_lowerPlain {chars : List Char} (hne : chars ≠ [])
    (h : ∀ c ∈ chars, c.isAlphanum = true) : IsRegion (lowerPlain chars) where
  small := Text.isSmall_map_toLower fun c hc => isBasic_of_isAlphanum (h c hc)
  nonempty := by
    intro hempty
    have hchars := congrArg String.toList hempty
    rw [lowerPlain, String.toList_ofList] at hchars
    exact hne (List.map_eq_nil_iff.mp hchars)
  unmarked := by
    rw [lowerPlain, String.toList_ofList]
    intro hmem
    obtain ⟨c, hc, hlower⟩ := List.mem_map.mp hmem
    exact toLower_ne_lowLine (h c hc) hlower

/-- The texts that name a locale: a language, and a hyphen and a region if there is one. -/
inductive Spells : List Char → Locale → Prop
  | language {word : List Char} (nonempty : word ≠ [])
      (chars : ∀ c ∈ word, isLanguageChar c = true) : Spells word ⟨lowerPlain word, none⟩
  | region {word region : List Char} (nonempty : word ≠ [])
      (chars : ∀ c ∈ word, isLanguageChar c = true) (region_nonempty : region ≠ [])
      (region_chars : ∀ c ∈ region, c.isAlphanum = true) :
      Spells (word ++ '-' :: region) ⟨lowerPlain word, some (lowerPlain region)⟩

/-- A tag that names a locale spells it. -/
theorem spells_of_ofTag? {tag : String} {l : Locale} (h : ofTag? tag = some l) :
    Spells tag.toList l := by
  have hsplit := List.takeWhile_append_dropWhile (p := isLanguageChar) (l := tag.toList)
  have hchars : ∀ c ∈ tag.toList.takeWhile isLanguageChar, isLanguageChar c = true :=
    fun c hc => List.mem_takeWhile_imp hc
  unfold ofTag? at h
  dsimp only at h
  split at h
  · cases h
  · rename_i hne
    rw [List.isEmpty_iff] at hne
    rw [← hsplit]
    split at h
    · rename_i hrest
      obtain rfl := Option.some.inj h
      rw [hrest, List.append_nil]
      exact .language hne hchars
    · rename_i region hrest
      split at h
      · rename_i hregion
        obtain rfl := Option.some.inj h
        rw [Bool.and_eq_true, Bool.not_eq_true', List.isEmpty_eq_false_iff,
          List.all_eq_true] at hregion
        rw [hrest]
        exact .region hne hchars hregion.1 hregion.2
      · cases h
    · cases h

/-- A text that spells a locale is a tag that names it. -/
theorem ofTag?_of_spells {tag : String} {l : Locale} (h : Spells tag.toList l) :
    ofTag? tag = some l := by
  generalize htext : tag.toList = text at h
  unfold ofTag?
  rw [htext]
  cases h with
  | language hne hchars =>
      have htake := List.takeWhile_eq_self_iff.mpr hchars
      have hdrop := List.dropWhile_eq_nil_iff.mpr hchars
      simp only [htake, hdrop, List.isEmpty_iff, hne, if_false]
  | @region word region hne hchars hregion hregionChars =>
      have hhyphen : ∀ c, ('-' :: region).head? = some c → isLanguageChar c = false := by
        rintro _ ⟨⟩
        decide
      have htake := Text.takeWhile_append_of_head? hchars hhyphen
      have hdrop := Text.dropWhile_append_of_head? hchars hhyphen
      have hall : (!region.isEmpty && region.all Char.isAlphanum) = true := by
        rw [Bool.and_eq_true, Bool.not_eq_true', List.isEmpty_eq_false_iff, List.all_eq_true]
        exact ⟨hregion, hregionChars⟩
      simp only [htake, hdrop, List.isEmpty_iff, hne, if_false, hall, if_true]

/-- A locale that a text spells is written small. -/
theorem Spells.canonical {text : List Char} {l : Locale} (h : Spells text l) : l.Canonical := by
  cases h with
  | language hne hchars =>
      exact ⟨Text.isSmall_map_toLower fun c hc => isBasic_of_isLanguageChar (hchars c hc), by simp⟩
  | region hne hchars hregion hregionChars =>
      refine ⟨Text.isSmall_map_toLower fun c hc => isBasic_of_isLanguageChar (hchars c hc), ?_⟩
      rintro _ ⟨⟩
      exact isRegion_lowerPlain hregion hregionChars

/-- The locale that a tag names is written small. -/
theorem canonical_of_ofTag? {tag : String} {l : Locale} (h : ofTag? tag = some l) :
    l.Canonical :=
  (spells_of_ofTag? h).canonical

end Locale

end Phrasebook
