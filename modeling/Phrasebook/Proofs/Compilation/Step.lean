import Phrasebook.Catalog.Compile
import Phrasebook.Proofs.Outcome
import Phrasebook.Proofs.Template

/-!
# The steps of a compilation

Each step of a compilation is told by when it succeeds and with what: an entry becomes a wording, a
section a message, and sections one after another a list of messages without a repeated identifier.
What a whole compilation accepts is put together from these.
-/

namespace Phrasebook

/-- An entry has a place exactly if its line is counted from one. -/
theorem Entry.span_eq_ok_iff {e : Entry} {span : Span} :
    e.span = .ok span ↔ 1 ≤ e.line ∧ span = ⟨e.source, some e.line.toNat⟩ := by
  unfold Entry.span Span.atLine
  split
  · simp only [reduceCtorEq, false_iff]
    omega
  · simp only [Except.ok.injEq]
    constructor
    · rintro rfl
      exact ⟨by omega, rfl⟩
    · rintro ⟨_, rfl⟩
      rfl

theorem Locale.ofTag_eq_ok_iff {tag : String} {span : Option Span} {locale : Locale} :
    Locale.ofTag tag span = .ok locale ↔ Locale.ofTag? tag = some locale := by
  unfold Locale.ofTag
  cases Locale.ofTag? tag with
  | none => simp
  | some l => simp

theorem Template.ofText_eq_ok_iff {text : String} {span : Option Span} {t : Template} :
    Template.ofText text span = .ok t ↔ Template.parse text = .ok t := by
  unfold Template.ofText
  cases Template.parse text with
  | error d => simp
  | ok t' => simp

theorem Key.validate_eq_ok_iff {identifier key : String} {span : Option Span} {u : Unit} :
    Key.validate identifier key span = .ok u ↔ Key.isDefinable identifier = true := by
  unfold Key.validate
  split <;> simp_all

/-- A wording holds what an entry says: its tag and its text are read, its place is kept. -/
structure Wording.Reads (w : Wording) (e : Entry) : Prop where
  /-- The line is counted from one. -/
  line : 1 ≤ e.line
  /-- The locale is that of the tag. -/
  locale : Locale.ofTag? e.tag = some w.locale
  /-- The template is that of the text. -/
  template : Template.parse e.text = .ok w.template
  /-- The template is written as the text. -/
  source : w.template.source = e.text
  /-- The place is that of the entry. -/
  span : w.span = some ⟨e.source, some e.line.toNat⟩

/-- An entry becomes a wording exactly if the wording holds what it says. -/
theorem Wording.ofEntry_eq_ok_iff {e : Entry} {w : Wording} :
    Wording.ofEntry e = .ok w ↔ w.Reads e := by
  unfold Wording.ofEntry
  simp only [bind_eq_ok_iff, liftM_invalid_eq_ok_iff, liftM_fault_eq_ok_iff,
    Entry.span_eq_ok_iff, Locale.ofTag_eq_ok_iff, Template.ofText_eq_ok_iff]
  constructor
  · rintro ⟨span, ⟨hline, rfl⟩, locale, hl, template, ht, h⟩
    obtain rfl := Except.ok.inj h
    exact ⟨hline, hl, ht, Template.source_of_parse ht, rfl⟩
  · rintro ⟨hline, hl, ht, -, hs⟩
    refine ⟨_, ⟨hline, rfl⟩, w.locale, hl, w.template, ht, ?_⟩
    rw [← hs]
    rfl

namespace Message

/-- An entry becomes a further wording exactly if it also takes the right number of values. -/
theorem wordingOf_eq_ok_iff {key : String} {arity : Nat} {e : Entry} {w : Wording} :
    wordingOf key arity e = .ok w ↔ w.template.arity = arity ∧ w.Reads e := by
  unfold wordingOf
  simp only [bind_eq_ok_iff, Wording.ofEntry_eq_ok_iff]
  constructor
  · rintro ⟨w', hw, h⟩
    split at h
    · rename_i ha
      obtain rfl := Except.ok.inj h
      exact ⟨ha, hw⟩
    · cases h
  · rintro ⟨ha, hw⟩
    exact ⟨w, hw, by rw [if_pos ha]; rfl⟩

/-- A message holds what a section says: its wordings are the entries in order, and all of them take
as many values as the first one. -/
structure Reads (m : Message) (s : Section) : Prop where
  /-- The key is kept. -/
  key : m.key = s.key
  /-- The identifier is made from the key. -/
  identifier : m.identifier = Key.identifier s.key
  /-- A module can define a function with the identifier. -/
  definable : Key.isDefinable m.identifier = true
  /-- The wordings are the entries in order. -/
  wordings : List.Forall₂ Wording.Reads m.wordings s.entries
  /-- All wordings take the same number of values. -/
  arity : ∀ w ∈ m.wordings, w.template.arity = m.arity

/-- A section becomes a message exactly if the message holds what it says. -/
theorem ofSection_eq_ok_iff {s : Section} {m : Message} : ofSection s = .ok m ↔ m.Reads s := by
  unfold ofSection
  cases hs : s.entries with
  | nil =>
      simp only [reduceCtorEq, false_iff]
      rintro ⟨-, -, -, hw, -⟩
      rw [hs] at hw
      cases hw
  | cons first rest =>
      simp only [bind_eq_ok_iff, liftM_invalid_eq_ok_iff, liftM_fault_eq_ok_iff,
        Entry.span_eq_ok_iff, Key.validate_eq_ok_iff, Wording.ofEntry_eq_ok_iff, mapM_eq_ok_iff,
        wordingOf_eq_ok_iff]
      constructor
      · rintro ⟨span, -, -, hdef, w, hw, others, hothers, h⟩
        obtain rfl := Except.ok.inj h
        obtain ⟨harity, hothers⟩ := (List.forall₂_and_left _ _).mp hothers
        refine ⟨rfl, rfl, hdef, ?_, ?_⟩
        · rw [hs]
          exact .cons hw hothers
        · exact List.forall_mem_cons.mpr ⟨rfl, harity⟩
      · rintro ⟨hk, hi, hdef, hw, ha⟩
        rw [hs] at hw
        obtain ⟨hfirst, hothers⟩ := List.forall₂_cons.mp hw
        obtain ⟨-, harity⟩ := List.forall_mem_cons.mp ha
        refine ⟨_, ⟨hfirst.line, rfl⟩, (), hi ▸ hdef, m.first, hfirst, m.rest,
          (List.forall₂_and_left _ _).mpr ⟨harity, hothers⟩, ?_⟩
        rw [← hi, ← hk]
        rfl

end Message

namespace Catalog

/-- Sections become messages behind those already found exactly if each becomes one, and no
identifier comes up twice. -/
theorem collect_eq_ok_iff {found messages : List Message} {sections : List Section} :
    collect found sections = .ok messages ↔ ∃ new, messages = found ++ new ∧
      List.Forall₂ Message.Reads new sections ∧
      new.Pairwise (·.identifier ≠ ·.identifier) ∧
      ∀ m ∈ new, ∀ other ∈ found, other.identifier ≠ m.identifier := by
  induction sections generalizing found with
  | nil =>
      rw [collect]
      constructor
      · intro h
        exact ⟨[], by simpa using (Except.ok.inj h).symm, .nil, .nil, by simp⟩
      · rintro ⟨new, rfl, hnew, -⟩
        cases hnew
        simp
  | cons s rest ih =>
      rw [collect, bind_eq_ok_iff]
      constructor
      · rintro ⟨m, hm, h⟩
        cases hf : found.find? (·.identifier == m.identifier) with
        | some other =>
            rw [hf] at h
            cases h
        | none =>
            rw [hf] at h
            obtain ⟨new, rfl, hnew, hdistinct, hfresh⟩ := ih.mp h
            have hm' : ∀ other ∈ found, other.identifier ≠ m.identifier := by
              simpa using hf
            refine ⟨m :: new, by simp, .cons (Message.ofSection_eq_ok_iff.mp hm) hnew, ?_, ?_⟩
            · refine List.pairwise_cons.mpr ⟨?_, hdistinct⟩
              intro m' hmem
              exact hfresh m' hmem m (by simp)
            · refine List.forall_mem_cons.mpr ⟨hm', ?_⟩
              intro m' hmem other hother
              exact hfresh m' hmem other (List.mem_append_left _ hother)
      · rintro ⟨new, rfl, hnew, hdistinct, hfresh⟩
        obtain ⟨m, new', hm, hnew', rfl⟩ := List.forall₂_cons_right_iff.mp hnew
        obtain ⟨hne, hdistinct'⟩ := List.pairwise_cons.mp hdistinct
        obtain ⟨hm', hfresh'⟩ := List.forall_mem_cons.mp hfresh
        refine ⟨m, Message.ofSection_eq_ok_iff.mpr hm, ?_⟩
        have hf : found.find? (·.identifier == m.identifier) = none := by
          simpa using hm'
        rw [hf]
        refine ih.mpr ⟨new', by simp, hnew', hdistinct', ?_⟩
        intro m' hmem other hother
        rcases List.mem_append.mp hother with hother | hother
        · exact hfresh' m' hmem other hother
        · rw [List.mem_singleton.mp hother]
          exact hne m' hmem

/-- Every message has every language of the catalog. -/
def Covered (c : Catalog) : Prop :=
  ∀ m ∈ c.messages, ∀ language ∈ c.locales.languages, language ∈ m.languages

/-- The check of the languages succeeds exactly if every message has all of them. -/
theorem checkLanguages_eq_ok_iff {c : Catalog} {u : Unit} :
    c.checkLanguages = .ok u ↔ c.Covered := by
  unfold checkLanguages
  cases hf : c.messages.find? fun m => !(c.missingLanguages m).isEmpty with
  | some m =>
      simp only [reduceCtorEq, false_iff]
      intro hc
      have hm := hc m (List.mem_of_find?_eq_some hf)
      have hmissing : c.missingLanguages m = [] := by
        simpa [missingLanguages] using hm
      simpa [hmissing] using List.find?_some hf
  | none =>
      refine ⟨fun _ m hm => ?_, fun _ => rfl⟩
      have hmissing := List.find?_eq_none.mp hf m hm
      simpa [missingLanguages] using hmissing

/-- A compilation succeeds exactly if the sections in order become messages, of which there is at
least one, and the languages are covered where this is asked for. -/
theorem compile_eq_ok_iff {sections : Sections} {config : Config} {c : Catalog} :
    compile sections config = .ok c ↔ ∃ messages,
      List.Forall₂ Message.Reads messages (sortSections sections) ∧
      messages.Pairwise (·.identifier ≠ ·.identifier) ∧ messages ≠ [] ∧
      (config.requireAllLanguages = true → c.Covered) ∧
      c = ofMessages messages config.fallback := by
  unfold compile
  simp only [bind_eq_ok_iff, collect_eq_ok_iff, List.nil_append]
  constructor
  · rintro ⟨messages, ⟨new, rfl, hnew, hdistinct, -⟩, h⟩
    refine ⟨messages, hnew, hdistinct, ?_⟩
    split at h
    · cases h
    · rename_i hne
      split at h
      · obtain ⟨u, hu, h⟩ := bind_eq_ok_iff.mp h
        obtain rfl := Except.ok.inj h
        exact ⟨by simpa using hne, fun _ =>
          checkLanguages_eq_ok_iff.mp (liftM_fault_eq_ok_iff.mp hu), rfl⟩
      · rename_i hall
        obtain rfl := Except.ok.inj h
        exact ⟨by simpa using hne, fun h => absurd h hall, rfl⟩
  · rintro ⟨messages, hnew, hdistinct, hne, hcovered, rfl⟩
    refine ⟨messages, ⟨messages, rfl, hnew, hdistinct, by simp⟩, ?_⟩
    rw [if_neg (by simpa using hne)]
    split
    · rename_i hall
      exact bind_eq_ok_iff.mpr
        ⟨(), liftM_fault_eq_ok_iff.mpr (checkLanguages_eq_ok_iff.mpr (hcovered hall)), rfl⟩
    · rfl

end Catalog

end Phrasebook
