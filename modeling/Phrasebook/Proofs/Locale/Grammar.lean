import Phrasebook.Proofs.Compilation.Step
import Phrasebook.Proofs.Locale.Tag
import Phrasebook.Proofs.Text.Pattern

/-!
# The grammar of tags

The tags that are read are the words of a regular language. Reading a tag and writing the locale
that it names gives the tag in lower case, which names the same locale again. So two tags name the
same locale exactly if they differ in nothing but the case of their letters.
-/

namespace Phrasebook.Locale

open Text

/-- The letters and digits of Basic Latin. -/
def plainChars : List Char :=
  "ABCDEFGHIJKLMNOPQRSTUVWXYZabcdefghijklmnopqrstuvwxyz0123456789".toList

/-- The pattern of languages: `[A-Za-z0-9_]+`. -/
def languagePattern : RegularExpression Char :=
  oneOf ('_' :: plainChars) * (oneOf ('_' :: plainChars)).star

/-- The pattern of regions: `[A-Za-z0-9]+`. -/
def regionPattern : RegularExpression Char := oneOf plainChars * (oneOf plainChars).star

/-- The pattern of tags: a language, then nothing or a hyphen and a region. -/
def tagPattern : RegularExpression Char :=
  languagePattern * (1 + RegularExpression.char '-' * regionPattern)

section Characters

variable {c : Char}

private theorem mem_plainChars : c ∈ plainChars ↔ c.isAlphanum = true := by
  constructor
  · intro h
    have hall : plainChars.all Char.isAlphanum = true := by decide
    exact List.all_eq_true.mp hall c h
  · intro h
    exact IsBasic.of_forall (p := fun c => c.isAlphanum = true → c ∈ plainChars) (by decide)
      (isBasic_of_isAlphanum h) h

private theorem mem_languageChars : c ∈ '_' :: plainChars ↔ isLanguageChar c = true := by
  rw [List.mem_cons, mem_plainChars, isLanguageChar, Bool.or_eq_true, beq_iff_eq, or_comm]

theorem isAlphanum_toLower (h : c.isAlphanum = true) : c.toLower.isAlphanum = true :=
  IsBasic.of_forall (p := fun c => c.isAlphanum = true → c.toLower.isAlphanum = true) (by decide)
    (isBasic_of_isAlphanum h) h

theorem isLanguageChar_toLower (h : isLanguageChar c = true) : isLanguageChar c.toLower = true :=
  IsBasic.of_forall (p := fun c => isLanguageChar c = true → isLanguageChar c.toLower = true)
    (by decide) (isBasic_of_isLanguageChar h) h

end Characters

section Pattern

open RegularExpression

theorem mem_languagePattern {word : List Char} : word ∈ languagePattern.matches' ↔
    word ≠ [] ∧ ∀ c ∈ word, isLanguageChar c = true := by
  simp only [languagePattern, mem_oneOf_mul_star, mem_languageChars]

theorem mem_regionPattern {word : List Char} : word ∈ regionPattern.matches' ↔
    word ≠ [] ∧ ∀ c ∈ word, c.isAlphanum = true := by
  simp only [regionPattern, mem_oneOf_mul_star, mem_plainChars]

/-- The words of the pattern are the texts that spell a locale. -/
theorem mem_tagPattern {text : List Char} :
    text ∈ tagPattern.matches' ↔ ∃ l, Spells text l := by
  simp only [tagPattern, matches'_mul, matches'_add, matches'_epsilon, Language.mem_mul,
    Language.mem_add, Language.mem_one, mem_char, mem_languagePattern, mem_regionPattern]
  constructor
  · rintro ⟨word, ⟨hne, hchars⟩, _, rfl | ⟨_, rfl, region, ⟨hregion, hregionChars⟩, rfl⟩, rfl⟩
    · rw [List.append_nil]
      exact ⟨_, .language hne hchars⟩
    · exact ⟨_, .region hne hchars hregion hregionChars⟩
  · rintro ⟨_, hspells⟩
    cases hspells with
    | language hne hchars => exact ⟨_, ⟨hne, hchars⟩, [], .inl rfl, List.append_nil _⟩
    | region hne hchars hregion hregionChars =>
        exact ⟨_, ⟨hne, hchars⟩, _, .inr ⟨_, rfl, _, ⟨hregion, hregionChars⟩, rfl⟩, rfl⟩

end Pattern

section Case

variable {text text' : List Char} {l l' : Locale}

theorem lowerPlain_map_toLower {word : List Char} (h : ∀ c ∈ word, IsBasic c) :
    lowerPlain (word.map Char.toLower) = lowerPlain word := by
  rw [lowerPlain, lowerPlain, List.map_map]
  exact congrArg String.ofList (List.map_congr_left fun c hc => toLower_toLower (h c hc))

namespace Spells

/-- A text that spells a locale is in Basic Latin. -/
theorem isBasic (h : Spells text l) : ∀ c ∈ text, IsBasic c := by
  cases h with
  | language hne hchars => exact fun c hc => isBasic_of_isLanguageChar (hchars c hc)
  | region hne hchars hregion hregionChars =>
      intro c hc
      rcases List.mem_append.mp hc with hc | hc
      · exact isBasic_of_isLanguageChar (hchars c hc)
      · rcases List.mem_cons.mp hc with rfl | hc
        · unfold IsBasic
          decide
        · exact isBasic_of_isAlphanum (hregionChars c hc)

/-- The language of a locale has the characters of languages only. -/
theorem isLanguageChar_language (h : Spells text l) :
    ∀ c ∈ l.language.toList, isLanguageChar c = true := by
  have hlower {word : List Char} (hword : ∀ c ∈ word, isLanguageChar c = true) :
      ∀ c ∈ (lowerPlain word).toList, isLanguageChar c = true := by
    intro c hc
    rw [lowerPlain, String.toList_ofList] at hc
    obtain ⟨d, hd, rfl⟩ := List.mem_map.mp hc
    exact isLanguageChar_toLower (hword d hd)
  cases h with
  | language hne hchars => exact hlower hchars
  | region hne hchars hregion hregionChars => exact hlower hchars

/-- The tag of a locale is what spells it, in lower case. -/
theorem toList_tag (h : Spells text l) : l.tag.toList = text.map Char.toLower := by
  cases h with
  | language hne hchars => rw [tag, lowerPlain, String.toList_ofList]
  | region hne hchars hregion hregionChars =>
      have hhyphen : "-".toList = ['-'.toLower] := by decide
      simp only [tag, lowerPlain, String.toList_append, String.toList_ofList, hhyphen,
        List.map_append, List.map_cons, List.append_assoc, List.singleton_append]

/-- In lower case a text spells the same locale. -/
theorem map_toLower (h : Spells text l) : Spells (text.map Char.toLower) l := by
  have hlower {p : Char → Bool} (hp : ∀ c, p c = true → p c.toLower = true) {word : List Char}
      (hword : ∀ c ∈ word, p c = true) : ∀ c ∈ word.map Char.toLower, p c = true := by
    intro d hd
    obtain ⟨c, hc, rfl⟩ := List.mem_map.mp hd
    exact hp c (hword c hc)
  have hlanguage (c : Char) : isLanguageChar c = true → isLanguageChar c.toLower = true :=
    isLanguageChar_toLower
  have hplain (c : Char) : c.isAlphanum = true → c.toLower.isAlphanum = true := isAlphanum_toLower
  cases h with
  | language hne hchars =>
      rw [← lowerPlain_map_toLower fun c hc => isBasic_of_isLanguageChar (hchars c hc)]
      exact .language (by simpa using hne) (hlower hlanguage hchars)
  | region hne hchars hregion hregionChars =>
      have hhyphen : '-'.toLower = '-' := by decide
      rw [← lowerPlain_map_toLower fun c hc => isBasic_of_isLanguageChar (hchars c hc),
        ← lowerPlain_map_toLower fun c hc => isBasic_of_isAlphanum (hregionChars c hc),
        List.map_append, List.map_cons, hhyphen]
      exact .region (by simpa using hne) (hlower hlanguage hchars) (by simpa using hregion)
        (hlower hplain hregionChars)

/-- A text spells one locale only. -/
theorem unique (h : Spells text l) (h' : Spells text l') : l = l' := by
  rw [← String.toList_ofList (l := text)] at h h'
  exact Option.some.inj ((ofTag?_of_spells h).symm.trans (ofTag?_of_spells h'))

/-- Texts spell the same locale exactly if they are equal in lower case. -/
theorem eq_iff (h : Spells text l) (h' : Spells text' l') :
    l = l' ↔ text.map Char.toLower = text'.map Char.toLower := by
  constructor
  · rintro rfl
    rw [← h.toList_tag, h'.toList_tag]
  · intro hlower
    have hsame := h'.map_toLower
    rw [← hlower] at hsame
    exact h.map_toLower.unique hsame

end Spells

end Case

/-- A tag names a locale exactly if it spells it. -/
theorem ofTag_eq_ok_iff_spells {text : String} {span : Option Span} {l : Locale} :
    ofTag text span = .ok l ↔ Spells text.toList l := by
  rw [ofTag_eq_ok_iff]
  exact ⟨spells_of_ofTag?, ofTag?_of_spells⟩

/-- A tag that names no locale is refused as such. -/
theorem ofTag_of_not_spells {text : String} {span : Option Span} (h : ¬ ∃ l, Spells text.toList l) :
    ofTag text span = .error (.localeTagInvalid text span) := by
  unfold ofTag
  cases htag : ofTag? text with
  | none => rfl
  | some l => exact absurd ⟨l, spells_of_ofTag? htag⟩ h

/-- The grammar of tags and their round trip. The tags that are read are the words of the pattern,
all others are refused. The locale that a tag names is spelled by it, has the tag in lower case for
its own tag and is named by that one too; another tag names it exactly if it is the same but for the
case of letters. -/
theorem ofTag_follows_grammar (text : String) (span : Option Span) :
    ((∃ l, ofTag text span = .ok l) ↔ text.toList ∈ tagPattern.matches') ∧
    (text.toList ∉ tagPattern.matches' →
      ofTag text span = .error (.localeTagInvalid text span)) ∧
    ∀ l, ofTag text span = .ok l →
      Spells text.toList l ∧ l.tag = Text.lower text ∧
      (∀ span', ofTag l.tag span' = .ok l) ∧
      ∀ text' span' l', ofTag text' span' = .ok l' →
        (l = l' ↔ text.toList.map Char.toLower = text'.toList.map Char.toLower) := by
  refine ⟨?_, fun hno => ofTag_of_not_spells (mem_tagPattern.not.mp hno), fun l hl => ?_⟩
  · simp only [mem_tagPattern, ofTag_eq_ok_iff_spells]
  · have h := ofTag_eq_ok_iff_spells.mp hl
    refine ⟨h, ?_, fun span' => ?_, fun text' span' l' h' => ?_⟩
    · rw [Text.lower, lowerChars, lowerAfter_of_isBasic [] h.isBasic, ← h.toList_tag,
        String.ofList_toList]
    · rw [ofTag_eq_ok_iff_spells, h.toList_tag]
      exact h.map_toLower
    · exact h.eq_iff (ofTag_eq_ok_iff_spells.mp h')

/-- A tag in mixed case, with a low line in its language, and the same tag in another case. -/
theorem ofTag_follows_grammar_mixed :
    ofTag "zh_Hant-TW" none = .ok ⟨"zh_hant", some "tw"⟩ ∧
    ofTag "ZH_hant-tw" none = .ok ⟨"zh_hant", some "tw"⟩ ∧
    "zh_Hant-TW".toList ∈ tagPattern.matches' ∧ "zh_hant-tw" = Text.lower "zh_Hant-TW" ∧
    ofTag "zh_hant-tw" none = .ok ⟨"zh_hant", some "tw"⟩ ∧
    "zh_Hant-TW".toList.map Char.toLower = "ZH_hant-tw".toList.map Char.toLower := by
  have htag : ofTag "zh_Hant-TW" none = .ok ⟨"zh_hant", some "tw"⟩ := by decide
  have hother : ofTag "ZH_hant-tw" none = .ok ⟨"zh_hant", some "tw"⟩ := by decide
  obtain ⟨hpattern, -, hround⟩ := ofTag_follows_grammar "zh_Hant-TW" none
  obtain ⟨-, hlower, hback, hcase⟩ := hround _ htag
  exact ⟨htag, hother, hpattern.mp ⟨_, htag⟩, hlower, hback none, (hcase _ _ _ hother).mp rfl⟩

end Phrasebook.Locale
