import Phrasebook.Proofs.Compilation.Acceptance
import Phrasebook.Proofs.Dispatch

/-!
# Catalogs that cover their languages

If every message has to have every language of the catalog, and a locale without a wording of its
own is served in its language, then no locale of a language of the catalog is served in another one.
The check of the languages gives the message a wording of the language; the lookup rule then names
one before the last resort, and all that it names there is of the language.
-/

namespace Phrasebook

/-- Options under which a catalog covers its languages and keeps to them. -/
def Config.covering : Config := { fallback := .sameLanguage }

namespace Message

section Named

variable {m : Message} {locale : Locale} {w : Wording}

private theorem language_of_regional? (h : m.regional? locale = some w) :
    w ∈ m.wordings ∧ w.locale.language = locale.language := by
  rw [regional?] at h
  split at h
  · have hw := List.find?_some h
    exact ⟨List.mem_of_find?_eq_some h, congrArg Locale.language (of_decide_eq_true hw)⟩
  · cases h

private theorem language_of_baseline? (h : m.baseline? locale = some w) :
    w ∈ m.wordings ∧ w.locale.language = locale.language := by
  rw [baseline?] at h
  have hw := List.find?_some h
  have halone : w.locale = locale.alone := of_decide_eq_true hw
  exact ⟨List.mem_of_find?_eq_some h, by rw [halone, Locale.alone]⟩

private theorem language_of_sibling? {policy : Policy} (h : m.sibling? policy locale = some w) :
    w ∈ m.wordings ∧ w.locale.language = locale.language := by
  cases policy with
  | firstListed => cases h
  | sameLanguage =>
      rw [sibling?] at h
      have hw := List.find?_some h
      exact ⟨List.mem_of_find?_eq_some h, of_decide_eq_true hw⟩

/-- What the lookup rule names before the last resort is a wording of the language of the locale. -/
theorem language_of_named {policy : Policy}
    (h : (m.regional? locale).or ((m.baseline? locale).or (m.sibling? policy locale)) = some w) :
    w ∈ m.wordings ∧ w.locale.language = locale.language := by
  rcases Option.or_eq_some_iff.mp h with h | ⟨-, h⟩
  · exact language_of_regional? h
  · rcases Option.or_eq_some_iff.mp h with h | ⟨-, h⟩
    · exact language_of_baseline? h
    · exact language_of_sibling? h

end Named

/-- A message that has a language has a wording that can stand in for it. -/
theorem exists_sibling? {m : Message} {locale : Locale} (h : locale.language ∈ m.languages) :
    ∃ w, m.sibling? .sameLanguage locale = some w := by
  obtain ⟨w, hw, hl⟩ := mem_languages.mp h
  rw [← Option.isSome_iff_exists, sibling?, List.find?_isSome]
  exact ⟨w, hw, decide_eq_true hl⟩

end Message

/-- A dispatch that looks for the same language has an arm for every locale of a language of its
message, and the template there is a wording of this language. -/
theorem Dispatch.exists_arm_of_language {m : Message} {locale : Locale}
    (h : locale.language ∈ m.languages) :
    ∃ arm, (ofMessage m .sameLanguage).arms.find? (·.fits locale) = some arm ∧
      ∃ w ∈ m.wordings, w.locale.language = locale.language ∧ arm.template = w.template := by
  obtain ⟨sibling, hsibling⟩ := Message.exists_sibling? h
  have harms := template_find?_arms m .sameLanguage locale
  cases hnamed : (m.regional? locale).or
      ((m.baseline? locale).or (m.sibling? .sameLanguage locale)) with
  | none =>
      rw [hsibling, Option.or_eq_none_iff, Option.or_eq_none_iff] at hnamed
      cases hnamed.2.2
  | some w =>
      obtain ⟨hw, hl⟩ := Message.language_of_named hnamed
      rw [hnamed, Option.map_some, Option.map_eq_some_iff] at harms
      obtain ⟨arm, harm, ht⟩ := harms
      exact ⟨arm, harm, w, hw, hl, ht⟩

namespace Catalog

variable {sections : Sections} {config : Config} {catalog : Catalog}

/-- A message that is found has the identifier that was looked for. -/
theorem mem_of_message? {name : String} {m : Message} (h : catalog.message? name = some m) :
    m ∈ catalog.messages ∧ m.identifier = name := by
  rw [message?] at h
  have hname := List.find?_some h
  exact ⟨List.mem_of_find?_eq_some h, eq_of_beq hname⟩

/-- What a name resolves to is a message that has the name as its identifier, or the identifier that
the name gives as a key. -/
theorem mem_of_resolve {name : String} {m : Message} (h : catalog.resolve name = .ok m) :
    m ∈ catalog.messages ∧ (m.identifier = name ∨ m.identifier = Key.identifier name) := by
  rw [resolve, get?] at h
  cases hname : catalog.message? name with
  | some m' =>
      rw [hname] at h
      obtain rfl := Except.ok.inj h
      exact ⟨(mem_of_message? hname).1, .inl (mem_of_message? hname).2⟩
  | none =>
      cases hkey : catalog.message? (Key.identifier name) with
      | some m' =>
          rw [hname, hkey] at h
          obtain rfl := Except.ok.inj h
          exact ⟨(mem_of_message? hkey).1, .inr (mem_of_message? hkey).2⟩
      | none =>
          rw [hname, hkey] at h
          cases h

/-- Every identifier and every key of the sections resolves to a message. -/
theorem exists_resolve (h : compile sections config = .ok catalog) {name : String}
    (hname : name ∈ catalog.identifiers ∨ name ∈ sections.keys) :
    ∃ m, catalog.resolve name = .ok m := by
  rw [resolve, get?]
  cases hmessage : catalog.message? name with
  | some m => exact ⟨m, rfl⟩
  | none =>
      rcases hname with hname | hname
      · obtain ⟨m, hm⟩ := exists_message? hname
        rw [hm] at hmessage
        cases hmessage
      · obtain ⟨s, hs, rfl⟩ := List.mem_map.mp hname
        obtain ⟨m, hm, hms⟩ := exists_mem_of_reads h hs
        obtain ⟨m', hm'⟩ := exists_message? (List.mem_map.mpr ⟨m, hm, hms.identifier⟩)
        rw [hm']
        exact ⟨m', rfl⟩

/-- Where every message has every language and locales are served in their language, a locale of a
language of the catalog finds an arm in every dispatch, and its template is a wording of this
language. -/
theorem dispatch_keeps_language (hcompile : compile sections config = .ok catalog)
    (hall : config.requireAllLanguages = true) (hpolicy : config.fallback = .sameLanguage) :
    (∀ name, name ∈ catalog.identifiers ∨ name ∈ sections.keys →
      ∃ dispatch, catalog.dispatch name = .ok dispatch) ∧
    ∀ name dispatch, catalog.dispatch name = .ok dispatch →
      ∃ m ∈ catalog.messages, catalog.resolve name = .ok m ∧
        (m.identifier = name ∨ m.identifier = Key.identifier name) ∧
        ∀ locale : Locale, locale.language ∈ catalog.locales.languages →
          (∃ arm, dispatch.arms.find? (·.fits locale) = some arm) ∧
          ∃ w ∈ m.wordings, w.locale.language = locale.language ∧
            dispatch.select locale = w.template := by
  have hfallback := (reads_of_compile hcompile).fallback.trans hpolicy
  obtain ⟨-, -, -, -, hcovered, -⟩ := compile_eq_ok_iff.mp hcompile
  refine ⟨fun name hname => ?_, fun name dispatch hdispatch => ?_⟩
  · obtain ⟨m, hm⟩ := exists_resolve hcompile hname
    exact ⟨_, by rw [Catalog.dispatch, hm]; rfl⟩
  · obtain ⟨m, hm, hdispatch⟩ := bind_eq_ok_iff.mp hdispatch
    obtain rfl := Except.ok.inj hdispatch
    obtain ⟨hmem, hname⟩ := mem_of_resolve hm
    refine ⟨m, hmem, hm, hname, fun locale hlanguage => ?_⟩
    rw [hfallback]
    obtain ⟨arm, harm, w, hw, hl, ht⟩ :=
      Dispatch.exists_arm_of_language (hcovered hall m hmem locale.language hlanguage)
    refine ⟨⟨arm, harm⟩, w, hw, hl, ?_⟩
    rw [Dispatch.select_eq, harm]
    exact ht

/-- A locale of a region that is not listed is served in its language by a message that has this
language for another region only. -/
theorem exists_dispatch_menu : ∃ catalog, compile Sections.menu Config.covering = .ok catalog ∧
    ∃ dispatch, catalog.dispatch "menu.openFiles" = .ok dispatch ∧
      ∃ m ∈ catalog.messages, ∃ w ∈ m.wordings,
        w.locale.language = "en" ∧ dispatch.select ⟨"en", some "us"⟩ = w.template := by
  have hok : (compile Sections.menu Config.covering).toOption.any (fun catalog =>
      catalog.locales.languages.contains "en") := by
    decide +kernel
  cases hcompile : compile Sections.menu Config.covering with
  | error e =>
      rw [hcompile] at hok
      cases hok
  | ok catalog =>
      rw [hcompile] at hok
      obtain ⟨hdispatch, hkeeps⟩ := dispatch_keeps_language hcompile rfl rfl
      obtain ⟨dispatch, hname⟩ := hdispatch "menu.openFiles" (.inr (by decide))
      obtain ⟨m, hm, -, -, hlocale⟩ := hkeeps "menu.openFiles" dispatch hname
      obtain ⟨-, w, hw, hl, ht⟩ := hlocale ⟨"en", some "us"⟩ (List.contains_iff_mem.mp hok)
      exact ⟨catalog, rfl, dispatch, hname, m, hm, w, hw, hl, ht⟩

end Catalog

end Phrasebook
