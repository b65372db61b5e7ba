import Mathlib.Data.List.Nodup
import Mathlib.Data.List.Perm.Basic
import Mathlib.Data.Set.Function
import Phrasebook.Proofs.Compilation.Step
import Phrasebook.Proofs.Order

/-!
# What a compilation accepts

The conditions on sections under which they become a catalog, told entry by entry and key by key,
and the shape of the catalog that they become. Sections stand for a mapping, so that no key comes up
twice among them.
-/

namespace Phrasebook

/-- The language that the tag of an entry names. -/
def Entry.language? (e : Entry) : Option String := (Locale.ofTag? e.tag).map Locale.language

/-- Sections that can be compiled under some options. -/
structure Sections.Compilable (sections : Sections) (config : Config) : Prop where
  /-- There is a section. -/
  nonempty : sections ≠ []
  /-- Every section has an entry. -/
  entries : ∀ s ∈ sections, s.entries ≠ []
  /-- Lines are counted from one. -/
  lines : ∀ s ∈ sections, ∀ e ∈ s.entries, 1 ≤ e.line
  /-- Every key gives an identifier. -/
  identifier : ∀ s ∈ sections, Text.isIdentifier (Key.identifier s.key).toList = true
  /-- No key gives a word of the language of generated code. -/
  keyword : ∀ s ∈ sections, Key.identifier s.key ∉ Key.keywords
  /-- No key gives a name that a module has for itself. -/
  reserved : ∀ s ∈ sections, Key.identifier s.key ∉ Key.reserved
  /-- Every tag names a locale. -/
  tags : ∀ s ∈ sections, ∀ e ∈ s.entries, ∃ locale, Locale.ofTag? e.tag = some locale
  /-- Every text is a template. -/
  texts : ∀ s ∈ sections, ∀ e ∈ s.entries, ∃ t, Template.parse e.text = .ok t
  /-- The templates of a section take the same number of values. -/
  arity : ∀ s ∈ sections, ∀ e ∈ s.entries, ∀ e' ∈ s.entries, ∀ t t',
    Template.parse e.text = .ok t → Template.parse e'.text = .ok t' → t.arity = t'.arity
  /-- No key comes up twice. -/
  keys : sections.keys.Nodup
  /-- Different keys give different identifiers. -/
  identifiers : Set.InjOn Key.identifier {key | key ∈ sections.keys}
  /-- If this is asked for, every section has an entry for every language of any section. -/
  languages : config.requireAllLanguages = true → ∀ s ∈ sections, ∀ t ∈ sections,
    ∀ e ∈ t.entries, ∃ e' ∈ s.entries, e'.language? = e.language?

/-- A catalog holds what sections say. -/
structure Catalog.Reads (c : Catalog) (sections : Sections) (config : Config) : Prop where
  /-- The messages stand in strictly increasing order of their identifiers. -/
  sorted : c.messages.Pairwise (·.identifier < ·.identifier)
  /-- The messages are the sections, one for each. -/
  messages : ∃ arranged : Sections, arranged.Perm sections ∧
    List.Forall₂ Message.Reads c.messages arranged
  /-- The locales stand in strictly increasing order. -/
  ordered : c.locales.locales.Pairwise (Locale.lt · · = true)
  /-- The locales are those of the wordings. -/
  locales : ∀ l, l ∈ c.locales.locales ↔ ∃ m ∈ c.messages, ∃ w ∈ m.wordings, w.locale = l
  /-- The policy is that of the options. -/
  fallback : c.fallback = config.fallback

/-- A catalog of two sections and three locales that can be compiled. -/
def Sections.menu : Sections := [
  ⟨"menu.openFiles",
    [⟨"en-GB", "Open %d files", 3, "menu.ini"⟩, ⟨"fr", "Ouvrir %i", 4, "menu.ini"⟩]⟩,
  ⟨"greeting", [⟨"fr", "Salut", 7, "menu.ini"⟩, ⟨"en", "100%% hi", 8, "menu.ini"⟩]⟩]

namespace Key

/-- A module can define exactly the identifiers that are neither words of its language nor names
that it has for itself. -/
theorem isDefinable_iff {identifier : String} : isDefinable identifier = true ↔
    Text.isIdentifier identifier.toList = true ∧ identifier ∉ keywords ∧ identifier ∉ reserved := by
  simp [isDefinable, isName, and_assoc]

end Key

namespace Message

/-- The languages of a message are those of its wordings. -/
theorem mem_languages {m : Message} {language : String} :
    language ∈ m.languages ↔ ∃ w ∈ m.wordings, w.locale.language = language := by
  simp [languages, locales]

/-- A section can become a message if its entries can become wordings that take the same number of
values, and its key gives a name that a module can define. -/
theorem exists_reads {s : Section} (hentries : s.entries ≠ [])
    (hdefinable : Key.isDefinable (Key.identifier s.key) = true)
    (hwordings : ∀ e ∈ s.entries, ∃ w : Wording, w.Reads e)
    (harity : ∀ e ∈ s.entries, ∀ e' ∈ s.entries, ∀ t t',
      Template.parse e.text = .ok t → Template.parse e'.text = .ok t' → t.arity = t'.arity) :
    ∃ m : Message, m.Reads s := by
  obtain ⟨wordings, hw⟩ := exists_forall₂ hwordings
  cases wordings with
  | nil => exact absurd (List.forall₂_nil_left_iff.mp hw) hentries
  | cons first rest =>
      refine ⟨⟨s.key, Key.identifier s.key, first, rest⟩, rfl, rfl, hdefinable, hw, ?_⟩
      intro w hmem
      obtain ⟨e, he, hread⟩ := exists_right_of_forall₂ hw hmem
      obtain ⟨e', he', hfirst⟩ := exists_right_of_forall₂ hw (List.mem_cons_self ..)
      exact harity e he e' he' _ _ hread.template hfirst.template

end Message

namespace Catalog

theorem sortSections_perm (sections : Sections) : (sortSections sections).Perm sections :=
  sortBy_perm _ sections

/-- Messages of sections have the identifiers that the keys give. -/
private theorem map_identifier_of_reads {messages : List Message} {sections : List Section}
    (h : List.Forall₂ Message.Reads messages sections) :
    messages.map Message.identifier = (Sections.keys sections).map Key.identifier := by
  induction h with
  | nil => rfl
  | cons hm _ ih => rw [List.map_cons, ih, hm.identifier]; rfl

/-- No identifier of messages comes up twice exactly if no key of their sections does, and different
keys give different identifiers. -/
theorem pairwise_identifier_iff {messages : List Message} {sections : Sections}
    (h : List.Forall₂ Message.Reads messages (sortSections sections)) :
    messages.Pairwise (·.identifier ≠ ·.identifier) ↔
      sections.keys.Nodup ∧ Set.InjOn Key.identifier {key | key ∈ sections.keys} := by
  have hnodup : messages.Pairwise (·.identifier ≠ ·.identifier) ↔
      (sections.keys.map Key.identifier).Nodup := by
    have hperm := ((sortSections_perm sections).map Section.key).map Key.identifier
    rw [← Sections.keys, ← map_identifier_of_reads h] at hperm
    rw [Sections.keys, ← hperm.nodup_iff]
    exact List.pairwise_map.symm
  rw [hnodup]
  constructor
  · intro hn
    exact ⟨List.Nodup.of_map _ hn, fun k hk k' hk' he => List.inj_on_of_nodup_map hn hk hk' he⟩
  · rintro ⟨hkeys, hinj⟩
    exact List.Nodup.map_on (fun k hk k' hk' he => hinj hk hk' he) hkeys

/-- The languages of a catalog are those of the wordings of its messages. -/
theorem mem_languages_ofMessages {messages : List Message} {policy : Policy} {language : String} :
    language ∈ (ofMessages messages policy).locales.languages ↔
      ∃ m ∈ messages, ∃ w ∈ m.wordings, w.locale.language = language := by
  simp only [ofMessages, Message.locales, LocaleSet.mem_languages, LocaleSet.mem_ofList,
    List.mem_flatMap, List.mem_map]
  constructor
  · rintro ⟨l, ⟨m, hm, w, hw, rfl⟩, rfl⟩
    exact ⟨m, hm, w, hw, rfl⟩
  · rintro ⟨m, hm, w, hw, rfl⟩
    exact ⟨w.locale, ⟨m, hm, w, hw, rfl⟩, rfl⟩

/-- A catalog of messages has all languages everywhere exactly if every section has an entry for
every language of any section. -/
theorem covered_ofMessages_iff {messages : List Message} {sections : Sections} {policy : Policy}
    (h : List.Forall₂ Message.Reads messages (sortSections sections)) :
    (ofMessages messages policy).Covered ↔ ∀ s ∈ sections, ∀ t ∈ sections, ∀ e ∈ t.entries,
      ∃ e' ∈ s.entries, e'.language? = e.language? := by
  constructor
  · intro hcovered s hs t ht e he
    obtain ⟨m, hm, hms⟩ := exists_left_of_forall₂ h ((sortSections_perm sections).mem_iff.mpr hs)
    obtain ⟨n, hn, hnt⟩ := exists_left_of_forall₂ h ((sortSections_perm sections).mem_iff.mpr ht)
    obtain ⟨w, hw, hwe⟩ := exists_left_of_forall₂ hnt.wordings he
    have hlanguage := hcovered m (mem_sortBy.mpr hm) w.locale.language
      (mem_languages_ofMessages.mpr ⟨n, hn, w, hw, rfl⟩)
    obtain ⟨w', hw', hl⟩ := Message.mem_languages.mp hlanguage
    obtain ⟨e', he', hwe'⟩ := exists_right_of_forall₂ hms.wordings hw'
    refine ⟨e', he', ?_⟩
    rw [Entry.language?, Entry.language?, hwe'.locale, hwe.locale, Option.map_some,
      Option.map_some, hl]
  · intro hlanguages m hm language hlanguage
    obtain ⟨n, hn, w, hw, rfl⟩ := mem_languages_ofMessages.mp hlanguage
    obtain ⟨s, hs, hms⟩ := exists_right_of_forall₂ h (mem_sortBy.mp hm)
    obtain ⟨t, ht, hnt⟩ := exists_right_of_forall₂ h hn
    obtain ⟨e, he, hwe⟩ := exists_right_of_forall₂ hnt.wordings hw
    obtain ⟨e', he', hl⟩ := hlanguages s ((sortSections_perm sections).mem_iff.mp hs) t
      ((sortSections_perm sections).mem_iff.mp ht) e he
    obtain ⟨w', hw', hwe'⟩ := exists_left_of_forall₂ hms.wordings he'
    rw [Entry.language?, Entry.language?, hwe'.locale, hwe.locale, Option.map_some,
      Option.map_some, Option.some.injEq] at hl
    exact Message.mem_languages.mpr ⟨w', hw', hl⟩

/-- What can be compiled becomes messages, section by section. -/
theorem exists_messages {sections : Sections} {config : Config} (h : sections.Compilable config) :
    ∃ messages, List.Forall₂ Message.Reads messages (sortSections sections) := by
  apply exists_forall₂
  intro s hs
  replace hs := (sortSections_perm sections).mem_iff.mp hs
  refine Message.exists_reads (h.entries s hs) ?_ ?_ (h.arity s hs)
  · exact Key.isDefinable_iff.mpr ⟨h.identifier s hs, h.keyword s hs, h.reserved s hs⟩
  · intro e he
    obtain ⟨locale, hl⟩ := h.tags s hs e he
    obtain ⟨t, ht⟩ := h.texts s hs e he
    exact ⟨⟨locale, t, some ⟨e.source, some e.line.toNat⟩⟩, h.lines s hs e he, hl, ht,
      Template.source_of_parse ht, rfl⟩

/-- What is compiled could be compiled. -/
theorem compilable_of_compile {sections : Sections} {config : Config} {c : Catalog}
    (h : compile sections config = .ok c) : sections.Compilable config := by
  obtain ⟨messages, hread, hdistinct, hne, hcovered, rfl⟩ := compile_eq_ok_iff.mp h
  have hsection : ∀ s ∈ sections, ∃ m ∈ messages, m.Reads s := fun s hs =>
    exists_left_of_forall₂ hread ((sortSections_perm sections).mem_iff.mpr hs)
  have hentry : ∀ s ∈ sections, ∀ e ∈ s.entries, ∃ w : Wording, w.Reads e := by
    intro s hs e he
    obtain ⟨m, -, hms⟩ := hsection s hs
    obtain ⟨w, -, hwe⟩ := exists_left_of_forall₂ hms.wordings he
    exact ⟨w, hwe⟩
  have hdefinable : ∀ s ∈ sections, Key.isDefinable (Key.identifier s.key) = true := by
    intro s hs
    obtain ⟨m, -, hms⟩ := hsection s hs
    exact hms.identifier ▸ hms.definable
  obtain ⟨hkeys, hidentifiers⟩ := (pairwise_identifier_iff hread).mp hdistinct
  exact {
    nonempty := by
      rintro rfl
      exact hne (List.forall₂_nil_right_iff.mp hread)
    entries := by
      intro s hs he
      obtain ⟨m, -, hms⟩ := hsection s hs
      have hw := hms.wordings
      rw [he] at hw
      cases hw
    lines := fun s hs e he => let ⟨_, hw⟩ := hentry s hs e he; hw.line
    identifier := fun s hs => (Key.isDefinable_iff.mp (hdefinable s hs)).1
    keyword := fun s hs => (Key.isDefinable_iff.mp (hdefinable s hs)).2.1
    reserved := fun s hs => (Key.isDefinable_iff.mp (hdefinable s hs)).2.2
    tags := fun s hs e he => let ⟨_, hw⟩ := hentry s hs e he; ⟨_, hw.locale⟩
    texts := fun s hs e he => let ⟨_, hw⟩ := hentry s hs e he; ⟨_, hw.template⟩
    arity := by
      intro s hs e he e' he' t t' ht ht'
      obtain ⟨m, -, hms⟩ := hsection s hs
      obtain ⟨w, hw, hwe⟩ := exists_left_of_forall₂ hms.wordings he
      obtain ⟨w', hw', hwe'⟩ := exists_left_of_forall₂ hms.wordings he'
      rw [Except.ok.inj (ht.symm.trans hwe.template), Except.ok.inj (ht'.symm.trans hwe'.template),
        hms.arity w hw, hms.arity w' hw']
    keys := hkeys
    identifiers := hidentifiers
    languages := fun hall => (covered_ofMessages_iff hread).mp (hcovered hall) }

/-- What can be compiled is compiled. -/
theorem exists_compile {sections : Sections} {config : Config} (h : sections.Compilable config) :
    ∃ c, compile sections config = .ok c := by
  obtain ⟨messages, hread⟩ := exists_messages h
  refine ⟨ofMessages messages config.fallback, compile_eq_ok_iff.mpr ⟨messages, hread, ?_, ?_, ?_,
    rfl⟩⟩
  · exact (pairwise_identifier_iff hread).mpr ⟨h.keys, h.identifiers⟩
  · rintro rfl
    have hperm := sortSections_perm sections
    rw [List.forall₂_nil_left_iff.mp hread] at hperm
    exact h.nonempty hperm.nil_eq.symm
  · exact fun hall => (covered_ofMessages_iff hread).mpr (h.languages hall)

/-- The messages of a catalog stand in strictly increasing order if no identifier comes up twice. -/
theorem pairwise_messages_ofMessages {messages : List Message} {policy : Policy}
    (h : messages.Pairwise (·.identifier ≠ ·.identifier)) :
    (ofMessages messages policy).messages.Pairwise (·.identifier < ·.identifier) := by
  rw [ofMessages]
  refine (Text.pairwise_sortBy_name Message.identifier messages).imp₂ (fun _ _ => lt_of_le_of_ne) ?_
  exact ((sortBy_perm _ messages).pairwise_iff fun h => Ne.symm h).mpr h

/-- A compiled catalog holds what its sections say. -/
theorem reads_of_compile {sections : Sections} {config : Config} {c : Catalog}
    (h : compile sections config = .ok c) : c.Reads sections config := by
  obtain ⟨messages, hread, hdistinct, -, -, rfl⟩ := compile_eq_ok_iff.mp h
  exact {
    sorted := pairwise_messages_ofMessages hdistinct
    messages := by
      obtain ⟨arranged, harranged, hsections⟩ :=
        List.perm_comp_forall₂ (sortBy_perm _ messages) hread
      exact ⟨arranged, hsections.trans (sortSections_perm sections), harranged⟩
    ordered := LocaleSet.pairwise_ofList _
    locales := by
      intro l
      rw [ofMessages, LocaleSet.mem_ofList, List.mem_flatMap]
      constructor
      · rintro ⟨m, hm, hl⟩
        obtain ⟨w, hw, rfl⟩ := List.mem_map.mp hl
        exact ⟨m, mem_sortBy.mpr hm, w, hw, rfl⟩
      · rintro ⟨m, hm, w, hw, rfl⟩
        exact ⟨m, mem_sortBy.mp hm, List.mem_map_of_mem hw⟩
    fallback := rfl }

/-- A message of a compiled catalog was made from a section. -/
theorem exists_reads_of_mem {sections : Sections} {config : Config} {c : Catalog}
    (h : compile sections config = .ok c) {m : Message} (hm : m ∈ c.messages) :
    ∃ s ∈ sections, m.Reads s := by
  obtain ⟨arranged, hperm, hreads⟩ := (reads_of_compile h).messages
  obtain ⟨s, hs, hms⟩ := exists_right_of_forall₂ hreads hm
  exact ⟨s, hperm.mem_iff.mp hs, hms⟩

/-- A section became a message of the compiled catalog. -/
theorem exists_mem_of_reads {sections : Sections} {config : Config} {c : Catalog}
    (h : compile sections config = .ok c) {s : Section} (hs : s ∈ sections) :
    ∃ m ∈ c.messages, m.Reads s := by
  obtain ⟨arranged, hperm, hreads⟩ := (reads_of_compile h).messages
  exact exists_left_of_forall₂ hreads (hperm.mem_iff.mpr hs)

/-- A compiled catalog has a locale. -/
theorem locales_ne_nil {sections : Sections} {config : Config} {c : Catalog}
    (h : compile sections config = .ok c) : c.locales.locales ≠ [] := by
  have hcompilable := compilable_of_compile h
  obtain ⟨s, hs⟩ := List.exists_mem_of_ne_nil _ hcompilable.nonempty
  obtain ⟨e, he⟩ := List.exists_mem_of_ne_nil _ (hcompilable.entries s hs)
  obtain ⟨m, hm, hms⟩ := exists_mem_of_reads h hs
  obtain ⟨w, hw, -⟩ := exists_left_of_forall₂ hms.wordings he
  exact List.ne_nil_of_mem (((reads_of_compile h).locales w.locale).mpr ⟨m, hm, w, hw, rfl⟩)

/-- There is a message for every identifier. -/
theorem exists_message? {c : Catalog} {name : String} (h : name ∈ c.identifiers) :
    ∃ m, c.message? name = some m := by
  obtain ⟨m, hm, rfl⟩ := List.mem_map.mp h
  rw [← Option.isSome_iff_exists, message?, List.find?_isSome]
  exact ⟨m, hm, by simp⟩

/-- Sections are compiled exactly if they can be, and the catalog holds what they say. -/
theorem compile_iff_compilable_and_reads (sections : Sections) (config : Config) :
    ((∃ c, compile sections config = .ok c) ↔ sections.Compilable config) ∧
      ∀ c, compile sections config = .ok c → c.Reads sections config :=
  ⟨⟨fun ⟨_, h⟩ => compilable_of_compile h, exists_compile⟩, fun _ => reads_of_compile⟩

/-- Two sections that do not stand in the order of their identifiers are compiled, and the catalog
holds what they say. -/
theorem exists_compile_menu : Sections.menu.Compilable {} ∧
    ∃ c, compile Sections.menu {} = .ok c ∧ c.Reads Sections.menu {} := by
  have hok : (compile Sections.menu {}).toOption.isSome = true := by decide +kernel
  obtain ⟨haccepts, hreads⟩ := compile_iff_compilable_and_reads Sections.menu {}
  cases hc : compile Sections.menu {} with
  | error e =>
      rw [hc] at hok
      cases hok
  | ok c => exact ⟨haccepts.mp ⟨c, hc⟩, c, rfl, hreads c hc⟩

end Catalog

end Phrasebook
