import Phrasebook.Proofs.Generated.Constructors
import Phrasebook.Proofs.Generated.LangClass
import Phrasebook.Proofs.Generated.Refinement
import Phrasebook.Proofs.Locale.Codec

/-!
# The codec of a generated module

A module that reads and writes locales does this by methods that are written out in its lines. What
these lines do when they run is what the module does with locales, and it agrees with the codec of
the catalog: the same texts are read as the same locales, and refused for the same part.
-/

namespace Phrasebook.Generated

open Text Phrasebook.Generated.Module

section Running

variable {tables : List (String × List String)} {languages regions : List String}

/-- How the check of a new locale ends. -/
private theorem run_checkBlock (hlanguages : tables.lookup "_LANGUAGES" = some languages)
    (language region : String) :
    checkBlock.run tables ⟨[("language", language), ("region", region)], []⟩ =
      some (if language ∈ languages then
        .finished ⟨[("language", language), ("region", lower region)], []⟩
      else .raised "ValueError" ("Unknown language " ++ quoted language)) := by
  let frame : Frame := ⟨[("language", language), ("region", region)], []⟩
  have hlisted : (Condition.listed (.field "language") "_LANGUAGES").evaluate tables frame =
      some (decide (language ∈ languages)) := Condition.evaluate_listed rfl hlanguages
  have hunknown := Condition.evaluate_negation hlisted
  have hfail : (Statement.fail "ValueError"
      [.plain "Unknown language ", .quoted (.field "language"), .plain ""]).run frame =
        some (.raised "ValueError" ("Unknown language " ++ quoted language)) := by
    simp [Statement.run, MessagePart.evaluate, Expression.evaluate, frame, String.join]
  by_cases h : language ∈ languages
  · rw [decide_eq_true h] at hunknown
    rw [if_pos h]
    exact (Block.run_guarded_false hunknown _ _).trans (Block.run_single _)
  · rw [decide_eq_false h] at hunknown
    rw [if_neg h]
    exact Block.run_guarded_ended hunknown ((Block.run_single _).trans hfail) (fun _ => nofun) _

/-- How the method that writes a locale ends. -/
private theorem run_encodeBlock (tables : List (String × List String)) (language region : String) :
    encodeBlock.run tables ⟨[("language", language), ("region", region)], []⟩ =
      some (.text (if region = "" then language else language ++ "_" ++ upper region)) := by
  let frame : Frame := ⟨[("language", language), ("region", region)], []⟩
  have hgiven : (Condition.given (.field "region")).evaluate tables frame =
      some (decide (region ≠ "")) := Condition.evaluate_given rfl
  have hempty := Condition.evaluate_negation hgiven
  by_cases h : region = ""
  · rw [decide_eq_false (not_not.mpr h)] at hempty
    rw [if_pos h]
    refine Block.run_guarded_ended hempty (Block.run_single _) ?_ _
    exact fun _ => nofun
  · rw [decide_eq_true h] at hempty
    rw [if_neg h]
    exact (Block.run_guarded_false hempty _ _).trans (Block.run_single _)

/-- What the method that reads a locale does with a language and a region. -/
private theorem run_partsBlock (hlanguages : tables.lookup "_LANGUAGES" = some languages)
    (hregions : tables.lookup "_REGIONS" = some regions) {frame : Frame}
    {value language region : String} (hvalue : frame.names.lookup "value" = some value)
    (hlanguage : frame.names.lookup "language" = some language)
    (hregion : frame.names.lookup "region" = some region) :
    partsBlock.run tables frame =
      some (if region ≠ "" ∧ region ∉ regions then .raised "UnknownLocaleOnDecode"
          ("Unknown region " ++ quoted region ++ " in locale " ++ quoted value)
        else if language ∉ languages then .raised "UnknownLocaleOnDecode"
          ("Unknown language " ++ quoted language ++ " in locale " ++ quoted value)
        else .made [language, region]) := by
  have herror {part text : String} (hpart : frame.names.lookup part = some text) :
      (Block.step (decodeError part) .done).run tables frame = some (.raised "UnknownLocaleOnDecode"
        ("Unknown " ++ part ++ " " ++ quoted text ++ " in locale " ++ quoted value)) := by
    rw [Block.run_single]
    simp [decodeError, Statement.run, MessagePart.evaluate, Expression.evaluate, hpart, hvalue,
      String.join]
  have hgiven : (Condition.given (.named "region")).evaluate tables frame =
      some (decide (region ≠ "")) := Condition.evaluate_given hregion
  have hregion' : (Condition.listed (.named "region") "_REGIONS").evaluate tables frame =
      some (decide (region ∈ regions)) := Condition.evaluate_listed hregion hregions
  have hlanguage' : (Condition.listed (.named "language") "_LANGUAGES").evaluate tables frame =
      some (decide (language ∈ languages)) := Condition.evaluate_listed hlanguage hlanguages
  have hunknownRegion := Condition.evaluate_both hgiven (Condition.evaluate_negation hregion')
  have hunknownLanguage := Condition.evaluate_negation hlanguage'
  rw [← decide_not, ← Bool.decide_and] at hunknownRegion
  rw [← decide_not] at hunknownLanguage
  by_cases hr : region ≠ "" ∧ region ∉ regions
  · rw [if_pos hr]
    rw [decide_eq_true hr] at hunknownRegion
    exact Block.run_guarded_ended hunknownRegion (herror hregion) (fun _ => nofun) _
  rw [decide_eq_false hr] at hunknownRegion
  rw [if_neg hr, partsBlock, Block.run_guarded_false hunknownRegion]
  by_cases hl : language ∉ languages
  · rw [if_pos hl]
    rw [decide_eq_true hl] at hunknownLanguage
    exact Block.run_guarded_ended hunknownLanguage (herror hlanguage) (fun _ => nofun) _
  · rw [decide_eq_false hl] at hunknownLanguage
    rw [if_neg hl, Block.run_guarded_false hunknownLanguage, Block.run_single]
    simp [Statement.run, Expression.evaluate, hlanguage, hregion]

/-- How the method that reads a locale ends. -/
private theorem run_decodeBlock (hlanguages : tables.lookup "_LANGUAGES" = some languages)
    (hregions : tables.lookup "_REGIONS" = some regions) {value language region : String}
    (hsplit : LocaleCodec.splitRegion (lower value) = (language, region)) :
    decodeBlock.run tables ⟨[], [("value", value)]⟩ =
      some (if lower value ∈ languages then .made [lower value]
        else if region ≠ "" ∧ region ∉ regions then .raised "UnknownLocaleOnDecode"
          ("Unknown region " ++ quoted region ++ " in locale " ++ quoted value)
        else if language ∉ languages then .raised "UnknownLocaleOnDecode"
          ("Unknown language " ++ quoted language ++ " in locale " ++ quoted value)
        else .made [language, region]) := by
  let lowered : Frame := ⟨[], [("lowered", lower value), ("value", value)]⟩
  have hlowered : (Statement.assign ["lowered"] [.lower (.named "value")]).run
      ⟨[], [("value", value)]⟩ = some (.finished lowered) := rfl
  have hlisted : (Condition.listed (.named "lowered") "_LANGUAGES").evaluate tables lowered =
      some (decide (lower value ∈ languages)) := Condition.evaluate_listed rfl hlanguages
  rw [decodeBlock, Block.run_step hlowered]
  by_cases hwhole : lower value ∈ languages
  · rw [decide_eq_true hwhole] at hlisted
    rw [if_pos hwhole]
    refine Block.run_guarded_ended hlisted (Block.run_single _) ?_ _
    exact fun _ => nofun
  · rw [decide_eq_false hwhole] at hlisted
    rw [if_neg hwhole, Block.run_guarded_false hlisted]
    rw [LocaleCodec.splitRegion] at hsplit
    cases hlast : splitLast? '_' (lower value).toList with
    | none =>
        rw [hlast] at hsplit
        obtain ⟨rfl, rfl⟩ := Prod.mk.inj hsplit
        have hcut : (Statement.cut ["language", "separator", "region"] (.named "lowered") '_').run
            lowered = some (.finished ⟨[], [("region", lower value), ("separator", ""),
              ("language", ""), ("lowered", lower value), ("value", value)]⟩) := by
          simp [Statement.run, Expression.evaluate, cutLast, hlast, Frame.assign, lowered]
        rw [Block.run_step hcut, Block.run_guarded_finished rfl rfl]
        exact run_partsBlock hlanguages hregions rfl rfl rfl
    | some parts =>
        obtain ⟨before, after⟩ := parts
        rw [hlast] at hsplit
        obtain ⟨rfl, rfl⟩ := Prod.mk.inj hsplit
        have hcut : (Statement.cut ["language", "separator", "region"] (.named "lowered") '_').run
            lowered = some (.finished ⟨[], [("region", String.ofList after),
              ("separator", "_"), ("language", String.ofList before), ("lowered", lower value),
              ("value", value)]⟩) := by
          simp [Statement.run, Expression.evaluate, cutLast, hlast, Frame.assign, lowered]
        rw [Block.run_step hcut, Block.run_guarded_false rfl]
        exact run_partsBlock hlanguages hregions rfl rfl rfl

end Running

section Calls

/-- The fields of a locale. -/
def Lang.fields (lang : Lang) : List (String × String) :=
  [("language", lang.language), ("region", lang.region)]

/-- The kind of error by which generated code reports a failure. -/
def RunError.kind : RunError → String
  | .undecodableRegion .. | .undecodableLanguage .. => "UnknownLocaleOnDecode"
  | _ => "ValueError"

/-- How a call ends that gives a locale or fails. -/
def Result.ofLang : Except RunError Lang → Option Result
  | .ok lang => some (.made lang.fields)
  | .error e => e.message?.map (.raised e.kind)

namespace Module

private theorem lookup_languages (m : Module) :
    m.langClass.tables.lookup "_LANGUAGES" = some m.languages := rfl

private theorem lookup_regions {m : Module} {regions : List String} (h : m.regions = some regions) :
    m.langClass.tables.lookup "_REGIONS" = some regions := by
  rw [langClass, tables, h]
  rfl

/-- What a module does with the parts of a text. -/
theorem decode_eq {m : Module} {regions : List String} (h : m.regions = some regions)
    {value language region : String}
    (hsplit : LocaleCodec.splitRegion (lower value) = (language, region)) :
    m.decode value =
      if lower value ∈ m.languages then m.lang (lower value)
      else if region ≠ "" ∧ region ∉ regions then .error (.undecodableRegion value region)
      else if language ∉ m.languages then .error (.undecodableLanguage value language)
      else m.lang language region := by
  rw [LocaleCodec.splitRegion] at hsplit
  cases hlast : splitLast? '_' (lower value).toList with
  | none =>
      rw [hlast] at hsplit
      obtain ⟨rfl, rfl⟩ := Prod.mk.inj hsplit
      simp [decode, h, hlast]
  | some parts =>
      rw [hlast] at hsplit
      obtain ⟨rfl, rfl⟩ := Prod.mk.inj hsplit
      simp [decode, h, hlast]

/-- The text that the class writes for a locale is the one that the codec writes. -/
theorem call_encode {m : Module} (h : m.regions.isSome) (lang : Lang) :
    m.langClass.call (some lang.fields) "encode" [] =
      some (.text (LocaleCodec.encode lang.locale)) := by
  have hencode : LocaleCodec.encode lang.locale = if lang.region = "" then lang.language
      else lang.language ++ "_" ++ upper lang.region := by
    rw [Lang.locale]
    by_cases h : lang.region = ""
    · rw [if_pos h, h]
      rfl
    · rw [if_neg h, LocaleCodec.regionOf_of_ne h, LocaleCodec.encode_some _ h]
  have hrun := run_encodeBlock m.langClass.tables lang.language lang.region
  rw [← hencode] at hrun
  exact Class.call_eq (some lang.fields) (routine?_encode h) rfl hrun

variable {m : Module} (hconstructors : ∀ c ∈ m.constructors, '_' ∉ c.name.toList)

include hconstructors

/-- An object of the class is a locale of the module. -/
theorem construct_langClass (language region : String) :
    m.langClass.construct [language, region] = Result.ofLang (m.lang language region) := by
  have hrun := run_checkBlock (lookup_languages m) language region
  rw [Class.construct_eq (routine?_check hconstructors) rfl rfl hrun, lang]
  by_cases h : language ∈ m.languages
  · rw [if_pos h, if_pos (List.contains_iff_mem.mpr h)]
    rfl
  · rw [if_neg h, if_neg (by simpa using h)]
    rfl

/-- An object of the class that is made from a language has no region. -/
theorem construct_langClass_default (language : String) :
    m.langClass.construct [language] = Result.ofLang (m.lang language) :=
  construct_langClass hconstructors language ""

/-- The class reads a text as the module does. -/
theorem call_decode {regions : List String} (h : m.regions = some regions) (value : String) :
    m.langClass.call none "decode" [value] = Result.ofLang (m.decode value) := by
  have hsome : m.regions.isSome := Option.isSome_of_eq_some h
  cases hsplit : LocaleCodec.splitRegion (lower value) with
  | mk language region =>
      have hrun := run_decodeBlock (lookup_languages m) (lookup_regions h) hsplit
      rw [decode_eq h hsplit, Class.call_eq none (routine?_decode hsome) rfl hrun]
      split
      · exact construct_langClass_default hconstructors (lower value)
      split
      · rfl
      split
      · rfl
      · exact construct_langClass hconstructors language region

end Module

end Calls

section Agreement

/-- Two readings of a text give the same locale, or refuse the text for the same part of it. -/
inductive Agree (value : String) : Except RunError Lang → Except Fault Locale → Prop
  /-- Both give a locale. -/
  | read (lang : Lang) : Agree value (.ok lang) (.ok lang.locale)
  /-- Both lack the region. -/
  | region (region : String) : Agree value (.error (.undecodableRegion value region))
      (.error (.localeUnknownRegion value region))
  /-- Both lack the language. -/
  | language (language : String) : Agree value (.error (.undecodableLanguage value language))
      (.error (.localeUnknownLanguage value language))

/-- A module reads texts as a codec does that has its languages and regions. -/
theorem Module.decode_agrees {m : Module} {codec : LocaleCodec} (hcodec : codec.Canonical)
    (hlanguages : m.languages = codec.languages) (hregions : m.regions = some codec.regions)
    (value : String) : Agree value (m.decode value) (codec.decode value) := by
  have hlang {language : String} (h : language ∈ codec.languages) (region : String) :
      m.lang language region = .ok ⟨language, lower region⟩ := by
    rw [lang, hlanguages, if_pos (List.contains_iff_mem.mpr h)]
  cases hsplit : LocaleCodec.splitRegion (lower value) with
  | mk language region =>
      rw [decode_eq hregions hsplit, hlanguages]
      by_cases hwhole : lower value ∈ codec.languages
      · rw [if_pos hwhole, LocaleCodec.decode_of_mem hwhole, hlang hwhole]
        exact .read ⟨lower value, ""⟩
      rw [if_neg hwhole, LocaleCodec.decode_of_not_mem hwhole hsplit]
      by_cases hregion : region ≠ "" ∧ region ∉ codec.regions
      · rw [if_pos hregion, if_pos hregion]
        exact .region region
      rw [if_neg hregion, if_neg hregion]
      by_cases hlanguage : language ∉ codec.languages
      · rw [if_pos hlanguage, if_pos hlanguage]
        exact .language language
      · -- The region is a known one or empty, so that it is in lower case already.
        have hlower : lower region = region := by
          by_cases hempty : region = ""
          · rw [hempty]
            rfl
          · exact lower_of_isSmall (hcodec.regions region (by simpa [hempty] using hregion)).small
        rw [if_neg hlanguage, if_neg hlanguage, hlang (not_not.mp hlanguage), hlower]
        exact .read ⟨language, region⟩

/-- The fields of a locale determine it. -/
theorem Lang.fields_inj {lang lang' : Lang} : lang.fields = lang'.fields ↔ lang = lang' := by
  cases lang
  cases lang'
  simp [Lang.fields]

/-- A locale of the catalog belongs to at most one locale of a module, and to none if its region is
empty. -/
theorem Lang.locale_eq_iff {lang : Lang} {l : Locale} :
    lang.locale = l ↔ l.region ≠ some "" ∧ lang = ⟨l.language, l.region.getD ""⟩ := by
  constructor
  · rintro rfl
    by_cases h : lang.region = ""
    · simp [Lang.locale, LocaleCodec.regionOf, ← h]
    · simp [Lang.locale, LocaleCodec.regionOf_of_ne h, h]
  · rintro ⟨h, rfl⟩
    obtain ⟨language, region⟩ := l
    cases region with
    | none => rfl
    | some region =>
        have hne : region ≠ "" := fun hempty => h (congrArg some hempty)
        simp [Lang.locale, LocaleCodec.regionOf_of_ne hne]

/-- A message about a region is not about a language. -/
private theorem unknownRegion_ne_unknownLanguage (region language value : String) :
    "Unknown region " ++ quoted region ++ " in locale " ++ quoted value ≠
      "Unknown language " ++ quoted language ++ " in locale " ++ quoted value := by
  intro h
  have hlist := congrArg String.toList h
  simp at hlist

namespace Agree

variable {value : String} {run : Except RunError Lang} {decoded : Except Fault Locale}

/-- Both readings give the same locale, whose region is not empty. -/
theorem read_iff (h : Agree value run decoded) (l : Locale) :
    decoded = .ok l ↔ l.region ≠ some "" ∧
      Result.ofLang run = some (.made (Lang.mk l.language (l.region.getD "")).fields) := by
  cases h with
  | read lang =>
      simp only [Result.ofLang, Except.ok.injEq, Option.some.injEq, Result.made.injEq,
        Lang.fields_inj, Lang.locale_eq_iff]
  | region region => simp [Result.ofLang, RunError.message?]
  | language language => simp [Result.ofLang, RunError.message?]

/-- Both readings refuse the same texts. -/
theorem refused_iff (h : Agree value run decoded) :
    (∃ message, Result.ofLang run = some (.raised "UnknownLocaleOnDecode" message)) ↔
      ∃ fault, decoded = .error fault ∧ fault.category = .unknownLocale := by
  cases h with
  | read lang => simp [Result.ofLang]
  | region region =>
      simp [Result.ofLang, RunError.message?, RunError.kind, Fault.category, Fault.code]
  | language language =>
      simp [Result.ofLang, RunError.message?, RunError.kind, Fault.category, Fault.code]

/-- Both readings complain about the same region. -/
theorem region_iff (h : Agree value run decoded) (region : String) :
    Result.ofLang run = some (.raised "UnknownLocaleOnDecode"
        ("Unknown region " ++ quoted region ++ " in locale " ++ quoted value)) ↔
      decoded = .error (.localeUnknownRegion value region) := by
  cases h with
  | read lang => simp [Result.ofLang]
  | region region' => simp [Result.ofLang, RunError.message?, RunError.kind, quoted_inj]
  | language language =>
      have hne := (unknownRegion_ne_unknownLanguage region language value).symm
      simpa [Result.ofLang, RunError.message?, RunError.kind] using hne

/-- Both readings complain about the same language. -/
theorem language_iff (h : Agree value run decoded) (language : String) :
    Result.ofLang run = some (.raised "UnknownLocaleOnDecode"
        ("Unknown language " ++ quoted language ++ " in locale " ++ quoted value)) ↔
      decoded = .error (.localeUnknownLanguage value language) := by
  cases h with
  | read lang => simp [Result.ofLang]
  | region region =>
      have hne := unknownRegion_ne_unknownLanguage region language value
      simpa [Result.ofLang, RunError.message?, RunError.kind] using hne
  | language language' => simp [Result.ofLang, RunError.message?, RunError.kind, quoted_inj]

end Agree

end Agreement

section Module

/-- A class reads and writes locales as text in the way of a codec. -/
structure Class.Realizes (c : Class) (codec : LocaleCodec) : Prop where
  /-- A text is read as the same locale. -/
  decodes (value : String) (l : Locale) : codec.decode value = .ok l ↔ l.region ≠ some "" ∧
    c.call none "decode" [value] =
      some (.made [("language", l.language), ("region", l.region.getD "")])
  /-- The same texts are refused. -/
  refuses (value : String) :
    (∃ message, c.call none "decode" [value] = some (.raised "UnknownLocaleOnDecode" message)) ↔
      ∃ fault, codec.decode value = .error fault ∧ fault.category = .unknownLocale
  /-- The same region is reported. -/
  region (value region : String) :
    c.call none "decode" [value] = some (.raised "UnknownLocaleOnDecode"
        ("Unknown region " ++ quoted region ++ " in locale " ++ quoted value)) ↔
      codec.decode value = .error (.localeUnknownRegion value region)
  /-- The same language is reported. -/
  language (value language : String) :
    c.call none "decode" [value] = some (.raised "UnknownLocaleOnDecode"
        ("Unknown language " ++ quoted language ++ " in locale " ++ quoted value)) ↔
      codec.decode value = .error (.localeUnknownLanguage value language)
  /-- A locale of a known language can be made, with its region in lower case, and is written as the
  same text. -/
  encodes (language : String) (h : language ∈ codec.languages) (region : String) :
    c.construct [language, region] =
        some (.made [("language", language), ("region", lower region)]) ∧
      c.call (some [("language", language), ("region", lower region)]) "encode" [] =
        some (.text (LocaleCodec.encode ⟨language, LocaleCodec.regionOf (lower region)⟩))

/-- The class of locales of a module realizes a codec that has its languages and regions. -/
theorem Module.realizes_langClass {m : Module} {codec : LocaleCodec} (hcodec : codec.Canonical)
    (hlanguages : m.languages = codec.languages) (hregions : m.regions = some codec.regions)
    (hconstructors : ∀ c ∈ m.constructors, '_' ∉ c.name.toList) :
    m.langClass.Realizes codec := by
  have hcall := call_decode hconstructors hregions
  have hagree := decode_agrees hcodec hlanguages hregions
  exact {
    decodes value l := by
      rw [hcall]
      exact (hagree value).read_iff l
    refuses value := by
      rw [hcall]
      exact (hagree value).refused_iff
    region value region := by
      rw [hcall]
      exact (hagree value).region_iff region
    language value language := by
      rw [hcall]
      exact (hagree value).language_iff language
    encodes language h region := by
      constructor
      · rw [construct_langClass hconstructors, lang, hlanguages,
          if_pos (List.contains_iff_mem.mpr h)]
        rfl
      · exact call_encode (Option.isSome_of_eq_some hregions) ⟨language, lower region⟩ }

/-- A compiled catalog has a module if the names of locales are at hand or not asked for, and the
lines of a module with a codec define a class of locales that realizes the codec of the catalog. -/
theorem written_codec_realizes_codec {sections : Sections} {config : Config} {catalog : Catalog}
    (hcompile : Catalog.compile sections config = .ok catalog) {settings : Config}
    (hemit : settings.emitCodec = true) (data : LocaleData) :
    ((settings.describeLocales = true → data ≠ .absent) →
      ∃ module, Module.ofCatalog catalog settings data = .ok module) ∧
    ∀ module, Module.ofCatalog catalog settings data = .ok module →
      ∃ c codec, Class.read? module.lines = some c ∧
        LocaleCodec.ofSet catalog.locales = .ok codec ∧
        codec.languages = catalog.locales.languages ∧ c.Realizes codec := by
  constructor
  · exact Module.exists_ofCatalog_eq_ok hcompile
  · intro module hmodule
    obtain ⟨names, -, default, -, rfl⟩ := Module.ofCatalog_eq_ok_iff.mp hmodule
    have hregions : (Module.ofDefault catalog settings names default).regions =
        some catalog.codec.regions := if_pos hemit
    refine ⟨_, catalog.codec, read?_lines _, Catalog.ofSet_locales hcompile, rfl,
      realizes_langClass (Catalog.canonical_codec hcompile) rfl hregions fun c hc => ?_⟩
    obtain ⟨hlanguage, hname⟩ := camel_language_of_mem_constructorsFor hc
    rw [← hname]
    exact Key.lowLine_not_mem_camel (Catalog.isSmall_of_mem_languages hcompile hlanguage).isBasic

/-- The methods of a module for British English read a language with a low line in it, refuse a text
for its region and write a region in upper case. -/
theorem exists_written_codec_british : ∃ catalog module c,
    Catalog.compile Sections.british {} = .ok catalog ∧
      Module.ofCatalog catalog { emitCodec := true } .absent = .ok module ∧
      Class.read? module.lines = some c ∧
      c.call none "decode" ["EN_gb_"] = some (.made [("language", "en_gb"), ("region", "")]) ∧
      c.call none "decode" ["fr_Us"] =
        some (.raised "UnknownLocaleOnDecode" "Unknown region 'us' in locale 'fr_Us'") ∧
      c.call (some [("language", "en"), ("region", lower "Gb")]) "encode" [] =
        some (.text "en_GB") := by
  obtain ⟨catalog, hcompile, hlanguages, hregions⟩ := Catalog.exists_compile_british
  obtain ⟨hmade, hwritten⟩ := written_codec_realizes_codec hcompile
    (rfl : ({ emitCodec := true } : Config).emitCodec = true) .absent
  obtain ⟨module, hmodule⟩ := hmade nofun
  obtain ⟨c, codec, hread, hcodec, -, hrealizes⟩ := hwritten module hmodule
  obtain rfl := Except.ok.inj ((Catalog.ofSet_locales hcompile).symm.trans hcodec)
  have hbritish : catalog.codec = ⟨["en", "en_gb"], ["gb"]⟩ := by
    rw [Catalog.codec, hlanguages, hregions]
  rw [hbritish] at hrealizes
  refine ⟨catalog, module, c, hcompile, hmodule, hread, ?_, ?_, ?_⟩
  · exact ((hrealizes.decodes "EN_gb_" ⟨"en_gb", none⟩).mp (by decide +kernel)).2
  · exact (hrealizes.region "fr_Us" "us").mpr (by decide +kernel)
  · exact (hrealizes.encodes "en" (by decide) "Gb").2

end Module

end Phrasebook.Generated
