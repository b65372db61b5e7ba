import Phrasebook.Locale.Codec
import Phrasebook.Proofs.Compilation.Acceptance
import Phrasebook.Proofs.Locale.Tag

/-!
# Reading and writing the locales of a catalog

A text denotes a locale by one of two rules: it is a language as a whole, or else it is a language
and a region, which may be empty, with a low line between them. The languages and regions of a
catalog were named by tags, so no region has a low line and the second rule cuts a text at one place
only. Reading follows these rules, and what it refuses is told by the last part of the text. Writing
a locale and reading it again gives the locale back, unless the text is a language as a whole.
-/

namespace Phrasebook

/-- A catalog that has the English of Great Britain as a region of a language and as a language of
its own. -/
def Sections.british : Sections := [
  ⟨"colour", [⟨"en-GB", "colour", 2, "words.ini"⟩, ⟨"en", "color", 3, "words.ini"⟩,
    ⟨"en_GB", "colour", 4, "words.ini"⟩]⟩]

namespace LocaleCodec

/-- A codec whose languages and regions were named by tags. -/
structure Canonical (codec : LocaleCodec) : Prop where
  languages : ∀ language ∈ codec.languages, Text.IsSmall language
  regions : ∀ region ∈ codec.regions, IsRegion region

/-- What a text in lower case denotes. A language as a whole prevails over its parts. -/
inductive Denotes (codec : LocaleCodec) : String → Locale → Prop
  /-- A language. -/
  | whole {language : String} (h : language ∈ codec.languages) :
      Denotes codec language ⟨language, none⟩
  /-- A language and a region, which may be empty. -/
  | parts {language region : String} (hwhole : language ++ "_" ++ region ∉ codec.languages)
      (hlanguage : language ∈ codec.languages) (hregion : region = "" ∨ region ∈ codec.regions) :
      Denotes codec (language ++ "_" ++ region) ⟨language, regionOf region⟩

/-- A text has behind its last low line a region, and an unknown one. -/
def EndsUnknown (codec : LocaleCodec) (text : String) : Prop :=
  ∃ before region, text = before ++ "_" ++ region ∧ '_' ∉ region.toList ∧ region ≠ "" ∧
    region ∉ codec.regions

section Cutting

private theorem toList_append_lowLine (before region : String) :
    (before ++ "_" ++ region).toList = before.toList ++ '_' :: region.toList := by
  simp

/-- A text is cut before a region without a low line. -/
theorem splitRegion_append (before : String) {region : String} (h : '_' ∉ region.toList) :
    splitRegion (before ++ "_" ++ region) = (before, region) := by
  rw [splitRegion, toList_append_lowLine, Text.splitLast?_append _ h]
  simp only [String.ofList_toList]

/-- A text without a low line is not cut. -/
theorem splitRegion_of_not_mem {text : String} (h : '_' ∉ text.toList) :
    splitRegion text = (text, "") := by
  rw [splitRegion, Text.splitLast?_eq_none_iff.mpr h]

/-- A text has no low line, or a last one. -/
private theorem not_mem_or_exists_last (text : String) :
    '_' ∉ text.toList ∨ ∃ before region, text = before ++ "_" ++ region ∧ '_' ∉ region.toList := by
  cases hsplit : Text.splitLast? '_' text.toList with
  | none => exact .inl (Text.splitLast?_eq_none_iff.mp hsplit)
  | some parts =>
      obtain ⟨before, region⟩ := parts
      refine .inr ⟨String.ofList before, String.ofList region, ?_, ?_⟩
      · rw [← String.toList_inj, toList_append_lowLine, String.toList_ofList, String.toList_ofList]
        exact (Text.append_of_splitLast? hsplit).symm
      · rw [String.toList_ofList]
        exact Text.not_mem_of_splitLast? hsplit

/-- The last low line of a text is at one place. -/
private theorem region_eq_of_append_eq {before before' region region' : String}
    (h : before ++ "_" ++ region = before' ++ "_" ++ region') (hregion : '_' ∉ region.toList)
    (hregion' : '_' ∉ region'.toList) : region = region' := by
  have hsplit := splitRegion_append before hregion
  rw [h, splitRegion_append before' hregion'] at hsplit
  exact (Prod.mk.inj hsplit).2.symm

end Cutting

section Reading

variable {codec : LocaleCodec} {value : String}

/-- A text that is a language as a whole is read as this language. -/
theorem decode_of_mem (h : Text.lower value ∈ codec.languages) :
    codec.decode value = .ok ⟨Text.lower value, none⟩ := by
  rw [decode, if_pos (List.contains_iff_mem.mpr h)]

/-- What reading does with the parts of a text that is no language as a whole. -/
theorem decode_of_not_mem (h : Text.lower value ∉ codec.languages) {language region : String}
    (hsplit : splitRegion (Text.lower value) = (language, region)) :
    codec.decode value =
      if region ≠ "" ∧ region ∉ codec.regions then .error (.localeUnknownRegion value region)
      else if language ∉ codec.languages then .error (.localeUnknownLanguage value language)
      else .ok ⟨language, regionOf region⟩ := by
  rw [decode, if_neg (by simpa using h), hsplit]
  simp

/-- A text is read as what it denotes, or refused for an unknown region at its end, or else for an
unknown language. -/
theorem decode_cases (codec : LocaleCodec) (value : String) :
    (∃ l, codec.Denotes (Text.lower value) l ∧ codec.decode value = .ok l) ∨
      (codec.EndsUnknown (Text.lower value) ∧
        ∃ region, codec.decode value = .error (.localeUnknownRegion value region)) ∨
      ¬ codec.EndsUnknown (Text.lower value) ∧
        ∃ language, codec.decode value = .error (.localeUnknownLanguage value language) := by
  by_cases hwhole : Text.lower value ∈ codec.languages
  · exact .inl ⟨_, .whole hwhole, decode_of_mem hwhole⟩
  · rcases not_mem_or_exists_last (Text.lower value) with hmark | ⟨before, region, htext, hlast⟩
    · have hdecode := decode_of_not_mem hwhole (splitRegion_of_not_mem hmark)
      rw [if_neg (by simp), if_pos hwhole] at hdecode
      refine .inr (.inr ⟨?_, _, hdecode⟩)
      rintro ⟨before, region, htext, -⟩
      rw [htext, toList_append_lowLine] at hmark
      simp at hmark
    · have hdecode := decode_of_not_mem hwhole (by rw [htext, splitRegion_append before hlast])
      by_cases hunknown : region ≠ "" ∧ region ∉ codec.regions
      · rw [if_pos hunknown] at hdecode
        exact .inr (.inl ⟨⟨before, region, htext, hlast, hunknown⟩, _, hdecode⟩)
      rw [if_neg hunknown] at hdecode
      by_cases hlanguage : before ∈ codec.languages
      · rw [if_neg (not_not.mpr hlanguage)] at hdecode
        refine .inl ⟨_, ?_, hdecode⟩
        rw [htext] at hwhole ⊢
        refine .parts hwhole hlanguage ?_
        by_cases hempty : region = ""
        · exact .inl hempty
        · exact .inr (not_not.mp fun hregion => hunknown ⟨hempty, hregion⟩)
      · rw [if_pos hlanguage] at hdecode
        refine .inr (.inr ⟨?_, _, hdecode⟩)
        rintro ⟨before', region', htext', hlast', hunknown'⟩
        obtain rfl := region_eq_of_append_eq (htext.symm.trans htext') hlast hlast'
        exact hunknown hunknown'

/-- A region that a canonical codec knows, or an empty one, has no low line. -/
theorem Canonical.unmarked (hcodec : codec.Canonical) {region : String}
    (h : region = "" ∨ region ∈ codec.regions) : '_' ∉ region.toList := by
  rcases h with rfl | h
  · simp
  · exact (hcodec.regions region h).unmarked

/-- Reading gives exactly the locale that a text denotes in lower case. -/
theorem decode_eq_ok_iff (hcodec : codec.Canonical) {l : Locale} :
    codec.decode value = .ok l ↔ codec.Denotes (Text.lower value) l := by
  constructor
  · intro h
    rcases decode_cases codec value with ⟨l', hl', h'⟩ | ⟨-, region, h'⟩ | ⟨-, language, h'⟩
    · rw [h'] at h
      exact Except.ok.inj h ▸ hl'
    · cases h'.symm.trans h
    · cases h'.symm.trans h
  · intro h
    generalize htext : Text.lower value = text at h
    cases h with
    | whole h =>
        subst htext
        exact decode_of_mem h
    | @parts language region hwhole hlanguage hregion =>
        have hsplit := splitRegion_append language (hcodec.unmarked hregion)
        rw [← htext] at hwhole hsplit
        rw [decode_of_not_mem hwhole hsplit, if_neg, if_neg (not_not.mpr hlanguage)]
        rintro ⟨hne, hunknown⟩
        exact hregion.elim hne hunknown

/-- The texts that are read. -/
theorem exists_decode_eq_ok_iff (hcodec : codec.Canonical) :
    (∃ l, codec.decode value = .ok l) ↔
      Text.lower value ∈ codec.languages ∨
        ∃ language ∈ codec.languages, ∃ region, (region = "" ∨ region ∈ codec.regions) ∧
          Text.lower value = language ++ "_" ++ region := by
  simp only [decode_eq_ok_iff hcodec]
  constructor
  · rintro ⟨l, h⟩
    generalize Text.lower value = text at h
    cases h with
    | whole h => exact .inl h
    | parts _ hlanguage hregion => exact .inr ⟨_, hlanguage, _, hregion, rfl⟩
  · intro h
    by_cases hwhole : Text.lower value ∈ codec.languages
    · exact ⟨_, .whole hwhole⟩
    · obtain ⟨language, hlanguage, region, hregion, htext⟩ := h.resolve_left hwhole
      rw [htext] at hwhole ⊢
      exact ⟨_, .parts hwhole hlanguage hregion⟩

end Reading

section Writing

theorem encode_none (language : String) : encode ⟨language, none⟩ = language := rfl

theorem encode_some (language : String) {region : String} (h : region ≠ "") :
    encode ⟨language, some region⟩ = language ++ "_" ++ Text.upper region := by
  simp [encode, Option.filter, h]

theorem regionOf_of_ne {region : String} (h : region ≠ "") : regionOf region = some region :=
  if_neg h

/-- The text of a locale with a region is, in lower case, the language and the region. -/
theorem lower_encode_some {language region : String} (hlanguage : Text.IsSmall language)
    (hregion : IsRegion region) :
    Text.lower (encode ⟨language, some region⟩) = language ++ "_" ++ region := by
  rw [encode_some language hregion.nonempty]
  exact Text.lower_append_upper (hlanguage.append (by decide)) hregion.small

variable {codec : LocaleCodec}

/-- A language alone is read back. -/
theorem decode_encode_none (hcodec : codec.Canonical) {language : String}
    (h : language ∈ codec.languages) :
    codec.decode (encode ⟨language, none⟩) = .ok ⟨language, none⟩ := by
  rw [decode_eq_ok_iff hcodec, encode_none, Text.lower_of_isSmall (hcodec.languages language h)]
  exact .whole h

section Regions

variable {language region : String} (hcodec : codec.Canonical)
  (hlanguage : language ∈ codec.languages) (hregion : region ∈ codec.regions)

include hcodec hlanguage hregion

/-- A language with a region is read as a language if it is one as a whole. -/
theorem decode_encode_of_mem (h : language ++ "_" ++ region ∈ codec.languages) :
    codec.decode (encode ⟨language, some region⟩) = .ok ⟨language ++ "_" ++ region, none⟩ := by
  rw [decode_eq_ok_iff hcodec,
    lower_encode_some (hcodec.languages language hlanguage) (hcodec.regions region hregion)]
  exact .whole h

/-- A language with a region is read back if it is no language as a whole. -/
theorem decode_encode_of_not_mem (h : language ++ "_" ++ region ∉ codec.languages) :
    codec.decode (encode ⟨language, some region⟩) = .ok ⟨language, some region⟩ := by
  rw [decode_eq_ok_iff hcodec,
    lower_encode_some (hcodec.languages language hlanguage) (hcodec.regions region hregion),
    ← regionOf_of_ne (hcodec.regions region hregion).nonempty]
  exact .parts h hlanguage (.inr hregion)

end Regions

/-- Writing what was read and reading it again changes nothing. -/
theorem decode_encode_of_decode (hcodec : codec.Canonical) {value : String} {l : Locale}
    (h : codec.decode value = .ok l) : codec.decode (encode l) = .ok l := by
  rw [decode_eq_ok_iff hcodec] at h
  generalize Text.lower value = text at h
  cases h with
  | whole h => exact decode_encode_none hcodec h
  | @parts language region hwhole hlanguage hregion =>
      by_cases hempty : region = ""
      · rw [hempty]
        exact decode_encode_none hcodec hlanguage
      · -- In lower case the text that is written is the one that was read, which is no language.
        rw [regionOf_of_ne hempty]
        exact decode_encode_of_not_mem hcodec hlanguage (hregion.resolve_left hempty) hwhole

end Writing

end LocaleCodec

namespace Catalog

variable {sections : Sections} {config : Config} {catalog : Catalog}

/-- The locales of a compiled catalog were named by tags. -/
theorem exists_spells_of_mem_locales (h : compile sections config = .ok catalog) {l : Locale}
    (hl : l ∈ catalog.locales.locales) : ∃ tag, Locale.Spells tag l := by
  obtain ⟨m, hm, w, hw, rfl⟩ := ((reads_of_compile h).locales l).mp hl
  obtain ⟨s, -, hms⟩ := exists_reads_of_mem h hm
  obtain ⟨e, -, hwe⟩ := exists_right_of_forall₂ hms.wordings hw
  exact ⟨_, Locale.spells_of_ofTag? hwe.locale⟩

theorem canonical_of_mem_locales (h : compile sections config = .ok catalog) {l : Locale}
    (hl : l ∈ catalog.locales.locales) : l.Canonical := by
  obtain ⟨tag, hspells⟩ := exists_spells_of_mem_locales h hl
  exact hspells.canonical

theorem isSmall_of_mem_languages (h : compile sections config = .ok catalog) {language : String}
    (hlanguage : language ∈ catalog.locales.languages) : Text.IsSmall language := by
  obtain ⟨l, hl, rfl⟩ := LocaleSet.mem_languages.mp hlanguage
  exact (canonical_of_mem_locales h hl).language

theorem isRegion_of_mem_regions (h : compile sections config = .ok catalog) {region : String}
    (hregion : region ∈ catalog.locales.regions) : IsRegion region := by
  obtain ⟨l, hl, hr⟩ := LocaleSet.mem_regions.mp hregion
  exact (canonical_of_mem_locales h hl).region region hr

/-- The codec of a catalog. -/
def codec (catalog : Catalog) : LocaleCodec := ⟨catalog.locales.languages, catalog.locales.regions⟩

theorem canonical_codec (h : compile sections config = .ok catalog) : catalog.codec.Canonical :=
  ⟨fun _ => isSmall_of_mem_languages h, fun _ => isRegion_of_mem_regions h⟩

/-- The locales of a compiled catalog have a codec. -/
theorem ofSet_locales (h : compile sections config = .ok catalog) :
    LocaleCodec.ofSet catalog.locales = .ok catalog.codec := by
  have hfind : catalog.locales.regions.find? (fun region => region.toList.contains '_') = none := by
    rw [List.find?_eq_none]
    intro region hregion hmark
    exact (isRegion_of_mem_regions h hregion).unmarked (by simpa using hmark)
  rw [LocaleCodec.ofSet, hfind]
  rfl

/-- A locale of known parts is read back from its text exactly if it has no region or is no language
as a whole, and in the other case it is read as this language. -/
theorem decode_encode_eq_self_iff (hcompile : compile sections config = .ok catalog) :
    ∃ codec, LocaleCodec.ofSet catalog.locales = .ok codec ∧
      ∀ language ∈ catalog.locales.languages, ∀ region : Option String,
        (∀ r ∈ region, r ∈ catalog.locales.regions) →
        (codec.decode (LocaleCodec.encode ⟨language, region⟩) = .ok ⟨language, region⟩ ↔
          region = none ∨ ∃ r, region = some r ∧ language ++ "_" ++ r ∉ catalog.locales.languages) ∧
        ∀ r, region = some r → language ++ "_" ++ r ∈ catalog.locales.languages →
          codec.decode (LocaleCodec.encode ⟨language, region⟩) =
            .ok ⟨language ++ "_" ++ r, none⟩ := by
  have hcodec := canonical_codec hcompile
  refine ⟨catalog.codec, ofSet_locales hcompile, fun language hlanguage region hregion => ?_⟩
  cases region with
  | none => simp [LocaleCodec.decode_encode_none hcodec hlanguage]
  | some region =>
      have hmem := LocaleCodec.decode_encode_of_mem hcodec hlanguage (hregion region rfl)
      have hnot := LocaleCodec.decode_encode_of_not_mem hcodec hlanguage (hregion region rfl)
      simp only [reduceCtorEq, false_or, Option.some.injEq, exists_eq_left', forall_eq']
      refine ⟨⟨fun hback hwhole => ?_, hnot⟩, hmem⟩
      have hregions := congrArg Locale.region (Except.ok.inj ((hmem hwhole).symm.trans hback))
      cases hregions

theorem exists_compile_british : ∃ catalog, compile Sections.british {} = .ok catalog ∧
    catalog.locales.languages = ["en", "en_gb"] ∧ catalog.locales.regions = ["gb"] := by
  have hok : (compile Sections.british {}).toOption.any (fun catalog =>
      catalog.locales.languages = ["en", "en_gb"] ∧ catalog.locales.regions = ["gb"]) := by
    decide +kernel
  cases hcompile : compile Sections.british {} with
  | error e =>
      rw [hcompile] at hok
      cases hok
  | ok catalog =>
      rw [hcompile] at hok
      exact ⟨catalog, rfl, of_decide_eq_true hok⟩

/-- The locale for Great Britain is read as the language of its own, which has a region too. -/
theorem exists_decode_encode_british : ∃ catalog, compile Sections.british {} = .ok catalog ∧
    ∃ codec, LocaleCodec.ofSet catalog.locales = .ok codec ∧
      codec.decode (LocaleCodec.encode ⟨"en", some "gb"⟩) = .ok ⟨"en_gb", none⟩ ∧
      codec.decode (LocaleCodec.encode ⟨"en_gb", some "gb"⟩) = .ok ⟨"en_gb", some "gb"⟩ := by
  obtain ⟨catalog, hcompile, hlanguages, hregions⟩ := exists_compile_british
  obtain ⟨codec, hcodec, hback⟩ := decode_encode_eq_self_iff hcompile
  rw [hlanguages, hregions] at hback
  refine ⟨catalog, hcompile, codec, hcodec, ?_, ?_⟩
  · exact (hback "en" (by decide) (some "gb") (by decide)).2 "gb" rfl (by decide)
  · exact (hback "en_gb" (by decide) (some "gb") (by decide)).1.mpr (.inr ⟨"gb", rfl, by decide⟩)

/-- A text is read exactly if in lower case it is a language or a language and a known or empty
region, and it is read as what it is. What is not read has an unknown region behind its last low
line, or else no known language. What is read is written as a text that is read as the same. -/
theorem decode_accepts_and_settles (hcompile : compile sections config = .ok catalog) :
    ∃ codec, LocaleCodec.ofSet catalog.locales = .ok codec ∧ ∀ value,
      ((∃ l, codec.decode value = .ok l) ↔
        Text.lower value ∈ catalog.locales.languages ∨
          ∃ language ∈ catalog.locales.languages, ∃ region,
            (region = "" ∨ region ∈ catalog.locales.regions) ∧
              Text.lower value = language ++ "_" ++ region) ∧
      (Text.lower value ∈ catalog.locales.languages →
        codec.decode value = .ok ⟨Text.lower value, none⟩) ∧
      (Text.lower value ∉ catalog.locales.languages →
        ∀ language ∈ catalog.locales.languages, ∀ region,
          (region = "" ∨ region ∈ catalog.locales.regions) →
            Text.lower value = language ++ "_" ++ region →
              codec.decode value = .ok ⟨language, if region = "" then none else some region⟩) ∧
      (∀ fault, codec.decode value = .error fault →
        ((∃ region, fault = .localeUnknownRegion value region) ↔
          codec.EndsUnknown (Text.lower value)) ∧
        ((∃ language, fault = .localeUnknownLanguage value language) ↔
          ¬ codec.EndsUnknown (Text.lower value))) ∧
      ∀ l, codec.decode value = .ok l → codec.decode (LocaleCodec.encode l) = .ok l := by
  have hcodec := canonical_codec hcompile
  refine ⟨catalog.codec, ofSet_locales hcompile, fun value =>
    ⟨LocaleCodec.exists_decode_eq_ok_iff hcodec, fun h => LocaleCodec.decode_of_mem h, ?_, ?_,
      fun l => LocaleCodec.decode_encode_of_decode hcodec⟩⟩
  · intro hwhole language hlanguage region hregion htext
    rw [LocaleCodec.decode_eq_ok_iff hcodec, htext]
    exact .parts (htext ▸ hwhole) hlanguage hregion
  · intro fault hfault
    rcases catalog.codec.decode_cases value with ⟨l, -, h⟩ | ⟨hends, region, h⟩ |
      ⟨hends, language, h⟩
    · cases h.symm.trans hfault
    · obtain rfl := Except.error.inj (h.symm.trans hfault)
      simp [hends]
    · obtain rfl := Except.error.inj (h.symm.trans hfault)
      simp [hends]

/-- A low line at the end is read as no region, and a text with two faults is one with an unknown
region. -/
theorem exists_decode_british : ∃ catalog, compile Sections.british {} = .ok catalog ∧
    ∃ codec, LocaleCodec.ofSet catalog.locales = .ok codec ∧
      codec.decode "EN_gb_" = .ok ⟨"en_gb", none⟩ ∧
      codec.decode (LocaleCodec.encode ⟨"en_gb", none⟩) = .ok ⟨"en_gb", none⟩ ∧
      ∃ region, codec.decode "fr_Us" = .error (.localeUnknownRegion "fr_Us" region) := by
  obtain ⟨catalog, hcompile, hlanguages, hregions⟩ := exists_compile_british
  obtain ⟨codec, hcodec, hread⟩ := decode_accepts_and_settles hcompile
  have hsecond : codec.decode "EN_gb_" = .ok ⟨"en_gb", none⟩ := by
    refine (hread "EN_gb_").2.2.1 ?_ "en_gb" ?_ "" (.inl rfl) (by decide +kernel)
    all_goals rw [hlanguages]; decide +kernel
  refine ⟨catalog, hcompile, codec, hcodec, hsecond, (hread "EN_gb_").2.2.2.2 _ hsecond, ?_⟩
  cases hfault : codec.decode "fr_Us" with
  | error fault =>
      have hends : codec.EndsUnknown (Text.lower "fr_Us") := by
        obtain rfl := Except.ok.inj ((ofSet_locales hcompile).symm.trans hcodec)
        refine ⟨"fr", "us", by decide +kernel, by decide, by decide, ?_⟩
        change "us" ∉ catalog.locales.regions
        rw [hregions]
        decide
      obtain ⟨region, rfl⟩ := ((hread "fr_Us").2.2.2.1 fault hfault).1.mpr hends
      exact ⟨region, rfl⟩
  | ok l =>
      have hlower : Text.lower "fr_Us" = "fr_us" := by decide +kernel
      have haccepted := (hread "fr_Us").1.mp ⟨l, hfault⟩
      simp [hlower, hlanguages, hregions] at haccepted

end Catalog

end Phrasebook
