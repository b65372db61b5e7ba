import Mathlib.Data.List.Nodup
import Mathlib.Data.String.Basic
import Mathlib.Order.Bounds.Basic
import Phrasebook.Generated.Basic
import Phrasebook.Proofs.Key

/-!
# Constructors of locales

Languages whose names for a constructor are the same share one, which makes the first of them. In a
list in order this is the least one. The name of a constructor starts with a capital and has only
letters and digits, so that it is not taken for a field or another method of the class.
-/

namespace Phrasebook.Generated

section Choice

/-- The first entry of a sorted list with a property is the least one. -/
private theorem find?_eq_some_iff_isLeast {α : Type} [LinearOrder α] {l : List α}
    (h : l.Pairwise (· < ·)) {p : α → Bool} {a : α} :
    l.find? p = some a ↔ IsLeast {x | x ∈ l ∧ p x = true} a := by
  induction l with
  | nil => simp [IsLeast]
  | cons b l ih =>
      obtain ⟨hb, hl⟩ := List.pairwise_cons.mp h
      by_cases hp : p b = true
      · have hleast : IsLeast {x | x ∈ b :: l ∧ p x = true} b := by
          refine ⟨⟨List.mem_cons_self .., hp⟩, ?_⟩
          rintro x ⟨hx, -⟩
          rcases List.mem_cons.mp hx with rfl | hx
          · exact le_rfl
          · exact (hb x hx).le
        rw [List.find?_cons_of_pos hp, Option.some.injEq]
        exact ⟨fun hba => hba ▸ hleast, hleast.unique⟩
      · have hset : {x | x ∈ b :: l ∧ p x = true} = {x | x ∈ l ∧ p x = true} := by
          ext x
          simp only [Set.mem_ofPred_eq, List.mem_cons]
          constructor
          · rintro ⟨rfl | hx, hpx⟩
            · exact absurd hpx hp
            · exact ⟨hx, hpx⟩
          · rintro ⟨hx, hpx⟩
            exact ⟨.inr hx, hpx⟩
        rw [List.find?_cons_of_neg hp, ih hl, hset]

variable {found : List Constructor} {languages : List String} {c : Constructor}

/-- A language adds the constructor of its name, if this is a name that was not found before. -/
theorem mem_constructorsFor : c ∈ constructorsFor found languages ↔ c ∈ found ∨
    Key.isName c.name = true ∧ c.name ∉ found.map Constructor.name ∧
      languages.find? (fun language => Key.camel language == c.name) = some c.language := by
  induction languages generalizing found with
  | nil => simp [constructorsFor]
  | cons language rest ih =>
      obtain ⟨name, chosen⟩ := c
      rw [constructorsFor]
      simp only [Locale.constructorName, Bool.and_eq_true, Bool.not_eq_true',
        List.contains_eq_mem, decide_eq_false_iff_not]
      by_cases hname : Key.camel language = name
      · -- From here on the name is taken, whether it is found now or was before.
        subst hname
        rw [List.find?_cons_of_pos (by simp)]
        split
        · rename_i hnew
          simp [ih, hnew, eq_comm]
        · rename_i hold
          rw [ih]
          exact or_congr_right
            ⟨fun h => absurd ⟨h.1, h.2.1⟩ hold, fun h => absurd ⟨h.1, h.2.1⟩ hold⟩
      · rw [List.find?_cons_of_neg (by simpa using hname)]
        split
        · simp [ih, Ne.symm hname]
        · exact ih

/-- No two constructors have one name. -/
theorem nodup_constructorsFor (h : (found.map Constructor.name).Nodup) :
    ((constructorsFor found languages).map Constructor.name).Nodup := by
  induction languages generalizing found with
  | nil => exact h
  | cons language rest ih =>
      rw [constructorsFor]
      split
      · rename_i hnew
        simp only [Bool.and_eq_true, Bool.not_eq_true', List.contains_eq_mem,
          decide_eq_false_iff_not] at hnew
        refine ih ?_
        rw [List.map_append, List.map_singleton]
        exact List.Nodup.append h (List.nodup_singleton _) (List.disjoint_singleton.mpr hnew.2)
      · exact ih h

/-- The constructors for languages in order make the least language of each name. -/
theorem mem_constructorsFor_iff_isLeast (h : languages.Pairwise (· < ·)) :
    c ∈ constructorsFor [] languages ↔ Key.isName c.name = true ∧
      IsLeast {language | language ∈ languages ∧ Key.camel language = c.name} c.language := by
  rw [mem_constructorsFor, find?_eq_some_iff_isLeast h]
  simp

/-- Constructors get names only. -/
theorem isName_of_mem_constructorsFor (h : c ∈ constructorsFor [] languages) :
    Key.isName c.name = true :=
  ((mem_constructorsFor.mp h).resolve_left List.not_mem_nil).1

/-- A constructor is named after its language. -/
theorem camel_language_of_mem_constructorsFor (h : c ∈ constructorsFor [] languages) :
    c.language ∈ languages ∧ Key.camel c.language = c.name := by
  obtain ⟨-, -, hfind⟩ := (mem_constructorsFor.mp h).resolve_left List.not_mem_nil
  exact ⟨List.mem_of_find?_eq_some hfind, by simpa using List.find?_some hfind⟩

end Choice

section Names

open Text

/-- The capitalized words of a text in Basic Latin do not start with a small letter. -/
private theorem isLower_of_head?_camel {text : String} (h : ∀ c ∈ text.toList, IsBasic c) {c : Char}
    (hc : (Key.camel text).toList.head? = some c) : c.isLower = false := by
  rw [Key.camel, String.toList_ofList] at hc
  cases hwords : Key.words text.toList with
  | nil => simp [hwords] at hc
  | cons w ws =>
      have hw : w ∈ Key.words text.toList := hwords ▸ List.mem_cons_self ..
      obtain ⟨d, rest, rfl⟩ := List.exists_cons_of_ne_nil (Key.ne_nil_of_mem_words hw)
      have hbasic : IsBasic d := h d (Key.mem_of_mem_words hw (List.mem_cons_self ..)).1
      rw [hwords, List.flatMap_cons, Key.capitalize, upperChar_of_isBasic hbasic] at hc
      obtain rfl := Option.some.inj hc
      exact IsBasic.of_forall (p := fun d => d.toUpper.isLower = false) (by decide) hbasic

/-- The names of the fields and methods that the class has besides the constructors. -/
def fixedNames : List String :=
  ["language", "region", "__post_init__", "all_languages", "default", "encode", "__str__", "decode"]

/-- A constructor for a small language has a name of letters and digits which is no other one of the
class. -/
structure Constructor.Distinct (c : Constructor) : Prop where
  plain : ∀ d ∈ c.name.toList, d.isAlphanum = true
  other : c.name ∉ fixedNames

theorem Constructor.Distinct.lowLine_not_mem {c : Constructor} (h : c.Distinct) :
    '_' ∉ c.name.toList := by
  intro hmem
  exact absurd (h.plain '_' hmem) (by decide)

theorem distinct_of_mem_constructorsFor {languages : List String} {c : Constructor}
    (hlanguages : ∀ language ∈ languages, ∀ d ∈ language.toList, IsBasic d)
    (hc : c ∈ constructorsFor [] languages) : c.Distinct := by
  obtain ⟨hmem, hname⟩ := camel_language_of_mem_constructorsFor hc
  have hbasic := hlanguages c.language hmem
  have hplain : ∀ d ∈ c.name.toList, d.isAlphanum = true := fun d hd =>
    Key.isAlphanum_of_mem_camel hbasic (hname ▸ hd)
  refine ⟨hplain, fun hown => ?_⟩
  -- Every other name starts with a small letter or a low line.
  have hstart : ∀ name ∈ fixedNames, ∃ d, name.toList.head? = some d ∧ (d.isLower ∨ d = '_') := by
    simp [fixedNames]
  obtain ⟨d, hd, hlower | rfl⟩ := hstart c.name hown
  · rw [isLower_of_head?_camel hbasic (hname ▸ hd)] at hlower
    cases hlower
  · exact absurd (hplain '_' (List.mem_of_head? hd)) (by decide)

end Names

end Phrasebook.Generated
