import Phrasebook.Generated.Print
import Phrasebook.Proofs.Compilation.Acceptance

/-!
# What a compilation does not depend on

Sections stand for a mapping from keys to entries: two arrangements of one mapping are compiled
alike, down to the error. The places of the entries reach nothing but the spans, so that entries
which say the same at other places give the same module, or fail in the same way.
-/

namespace Phrasebook

/-- An entry that says the same as another, possibly at another place. A line that is counted from
one stays one. -/
structure Entry.Relocated (e e' : Entry) : Prop where
  /-- The tag is kept. -/
  tag : e.tag = e'.tag
  /-- The text is kept. -/
  text : e.text = e'.text
  /-- The line is valid where the other one is. -/
  line : 1 ≤ e.line ↔ 1 ≤ e'.line

/-- A section that says the same as another, entry by entry. -/
structure Section.Relocated (s s' : Section) : Prop where
  /-- The key is kept. -/
  key : s.key = s'.key
  /-- The entries are kept, apart from their places. -/
  entries : List.Forall₂ Entry.Relocated s.entries s'.entries

/-- Errors that differ at most in the place that they name. -/
inductive Error.Alike : Error → Error → Prop
  | fault {f g : Fault} (category : f.category = g.category) (code : f.code = g.code)
      (message : f.message = g.message) : Alike (.fault f) (.fault g)
  | line (n n' : Int) : Alike (.invalid (.line n)) (.invalid (.line n'))

/-- A wording without its place. -/
def Wording.unplaced (w : Wording) : Wording := { w with span := none }

/-- A message without the places of its wordings. -/
def Message.unplaced (m : Message) : Message :=
  { m with first := m.first.unplaced, rest := m.rest.map Wording.unplaced }

/-- A catalog without the places of its wordings. -/
def Catalog.unplaced (c : Catalog) : Catalog :=
  { c with messages := c.messages.map Message.unplaced }

namespace Sections

/-- The sections of a menu with their entries at other places. -/
def movedMenu : Sections := menu.map fun s =>
  ⟨s.key, s.entries.map fun e => ⟨e.tag, e.text, 100 - e.line, s.key ++ ".ini"⟩⟩

/-- In a mapping, a section is found under its key, and only what is found is there. -/
theorem mem_iff_get? {sections : Sections} (h : sections.keys.Nodup) {s : Section} :
    s ∈ sections ↔ sections.get? s.key = some s.entries := by
  induction sections with
  | nil => simp [get?]
  | cons t rest ih =>
      obtain ⟨ht, hrest⟩ := List.nodup_cons.mp h
      rw [List.mem_cons, ih hrest, get?, get?, List.find?_cons]
      by_cases hk : t.key = s.key
      · have hnone : rest.find? (·.key == s.key) = none := by
          rw [List.find?_eq_none]
          intro u hu he
          exact ht (hk ▸ List.mem_map.mpr ⟨u, hu, by simpa using he⟩)
        obtain ⟨key, entries⟩ := s
        obtain ⟨key', entries'⟩ := t
        obtain rfl : key' = key := hk
        simp [hnone, eq_comm]
      · have hs : s ≠ t := fun he => hk (he ▸ rfl)
        simp [beq_false_of_ne hk, hs]

/-- Arrangements of one mapping are permutations of each other. -/
private theorem perm_of_get?_eq {s s' : Sections} (h : s.keys.Nodup) (h' : s'.keys.Nodup)
    (hget : ∀ key, s.get? key = s'.get? key) : s.Perm s' := by
  refine (List.perm_ext_iff_of_nodup (List.Nodup.of_map _ h) (List.Nodup.of_map _ h')).mpr ?_
  intro t
  rw [mem_iff_get? h, mem_iff_get? h', hget]

end Sections

namespace Catalog

/-- Arrangements of one mapping are brought into one order. -/
theorem sortSections_eq_of_get?_eq {s s' : Sections} (h : s.keys.Nodup) (h' : s'.keys.Nodup)
    (hget : ∀ key, s.get? key = s'.get? key) : sortSections s = sortSections s' := by
  refine Text.sortBy_name_eq_of_perm Section.key (Sections.perm_of_get?_eq h h' hget) ?_
  exact fun a ha b hb => List.inj_on_of_nodup_map h ha hb

/-- A compilation sees sections in the order of their keys only. -/
theorem compile_eq_of_sortSections_eq {s s' : Sections} (h : sortSections s = sortSections s')
    (config : Config) : compile s config = compile s' config := by
  rw [compile, compile, h]

end Catalog

section

variable {e e' : Entry} {s s' : Section}

/-- Entries that say the same both have a place, or neither has. -/
theorem Entry.Relocated.span (h : e.Relocated e') :
    Corresponds Error.Alike (fun _ _ => True) (liftM e.span) (liftM e'.span) := by
  have hline := h.line
  by_cases hl : 1 ≤ e.line
  · rw [Entry.span_eq_ok_iff.mpr ⟨hl, rfl⟩, Entry.span_eq_ok_iff.mpr ⟨hline.mp hl, rfl⟩]
    exact .ok trivial
  · rw [Entry.span, Entry.span, Span.atLine, Span.atLine, if_pos (by omega), if_pos (by omega)]
    exact .error (.line _ _)

theorem Locale.ofTag_corresponds (tag : String) (span span' : Option Span) :
    Corresponds Error.Alike Eq (liftM (Locale.ofTag tag span))
      (liftM (Locale.ofTag tag span')) := by
  unfold Locale.ofTag
  cases Locale.ofTag? tag with
  | none => exact .error (.fault rfl rfl rfl)
  | some l => exact .ok rfl

theorem Template.ofText_corresponds (text : String) (span span' : Option Span) :
    Corresponds Error.Alike Eq (liftM (Template.ofText text span))
      (liftM (Template.ofText text span')) := by
  unfold Template.ofText
  cases Template.parse text with
  | error d => exact .error (.fault rfl rfl rfl)
  | ok t => exact .ok rfl

theorem Key.validate_corresponds (identifier key : String) (span span' : Option Span) :
    Corresponds Error.Alike Eq (liftM (Key.validate identifier key span))
      (liftM (Key.validate identifier key span')) := by
  unfold Key.validate
  split
  · exact .ok rfl
  · exact .error (.fault rfl rfl rfl)

/-- Entries that say the same become wordings that differ in their places only. -/
theorem Entry.Relocated.ofEntry (h : e.Relocated e') :
    Corresponds Error.Alike (fun w w' => w.unplaced = w'.unplaced) (Wording.ofEntry e)
      (Wording.ofEntry e') := by
  rw [Wording.ofEntry, Wording.ofEntry, h.tag, h.text]
  refine h.span.bind fun span span' _ => ?_
  refine (Locale.ofTag_corresponds e'.tag _ _).bind fun locale locale' hl => ?_
  refine (Template.ofText_corresponds e'.text _ _).bind fun template template' ht => ?_
  subst hl ht
  exact .ok rfl

theorem Wording.template_of_unplaced_eq {w w' : Wording} (h : w.unplaced = w'.unplaced) :
    w.template = w'.template := congrArg (·.template) h

@[simp] theorem Message.locales_unplaced (m : Message) : m.unplaced.locales = m.locales := by
  simp [locales, wordings, unplaced, Wording.unplaced, Function.comp_def]

theorem Entry.Relocated.wordingOf (h : e.Relocated e') (key : String) (arity : Nat) :
    Corresponds Error.Alike (fun w w' => w.unplaced = w'.unplaced) (Message.wordingOf key arity e)
      (Message.wordingOf key arity e') := by
  rw [Message.wordingOf, Message.wordingOf]
  refine h.ofEntry.bind fun w w' hw => ?_
  rw [Wording.template_of_unplaced_eq hw, h.tag]
  split
  · exact .ok hw
  · exact .error (.fault rfl rfl rfl)

/-- Sections that say the same become messages that differ in their places only. -/
theorem Section.Relocated.ofSection (h : s.Relocated s') :
    Corresponds Error.Alike (fun m m' => m.unplaced = m'.unplaced) (Message.ofSection s)
      (Message.ofSection s') := by
  obtain ⟨key, entries⟩ := s
  obtain ⟨key', entries'⟩ := s'
  obtain ⟨hkey, hentries⟩ := h
  obtain rfl : key = key' := hkey
  cases hentries with
  | nil => exact .error (.fault rfl rfl rfl)
  | cons hfirst hrest =>
      refine hfirst.span.bind fun span span' _ => ?_
      refine (Key.validate_corresponds _ key _ _).bind fun _ _ _ => ?_
      refine hfirst.ofEntry.bind fun w w' hw => ?_
      rw [Wording.template_of_unplaced_eq hw]
      refine (Corresponds.mapM hrest fun e e' he => he.wordingOf key _).bind fun l l' hl => .ok ?_
      have hmap : l.map Wording.unplaced = l'.map Wording.unplaced := by
        rw [← List.forall₂_eq_eq_eq, List.forall₂_map_left_iff, List.forall₂_map_right_iff]
        exact hl
      rw [Message.unplaced, Message.unplaced, hw, hmap]

end

namespace Catalog

/-- Sections that say the same are brought into one order. -/
theorem sortSections_relocated {s s' : Sections} (h : List.Forall₂ Section.Relocated s s') :
    List.Forall₂ Section.Relocated (sortSections s) (sortSections s') := by
  refine forall₂_sortBy (fun a b a' b' ha hb => ?_) h
  rw [ha.key, hb.key]

/-- Sections that say the same are collected alike, behind messages that differ in their places
only. -/
theorem collect_corresponds {s s' : List Section} (h : List.Forall₂ Section.Relocated s s')
    {found found' : List Message}
    (hfound : found.map Message.unplaced = found'.map Message.unplaced) :
    Corresponds Error.Alike (fun l l' => l.map Message.unplaced = l'.map Message.unplaced)
      (collect found s) (collect found' s') := by
  induction h generalizing found found' with
  | nil => exact .ok hfound
  | cons hs _ ih =>
      refine hs.ofSection.bind fun m m' hm => ?_
      have hid : m.identifier = m'.identifier := congrArg (·.identifier) hm
      -- A message found under an identifier is found in the other list at the same place.
      have hfind : (found.find? (·.identifier == m.identifier)).map Message.unplaced =
          (found'.find? (·.identifier == m'.identifier)).map Message.unplaced := by
        have hmap := congrArg (List.find? (·.identifier == m.identifier)) hfound
        rw [List.find?_map, List.find?_map] at hmap
        rw [← hid]
        exact hmap
      rw [hid, hs.key]
      rw [hid] at hfind
      cases hf : found.find? (·.identifier == m'.identifier) with
      | none =>
          rw [hf] at hfind
          rw [Option.map_eq_none_iff.mp hfind.symm]
          exact ih (by rw [List.map_append, List.map_append, hfound, List.map_singleton, hm]; rfl)
      | some other =>
          rw [hf] at hfind
          obtain ⟨other', hf', hother⟩ := Option.map_eq_some_iff.mp hfind.symm
          have hkey : other'.key = other.key := congrArg (·.key) hother
          rw [hf']
          dsimp only
          rw [hkey]
          exact .error (.fault rfl rfl rfl)

/-- The places of messages do not matter for their order. -/
theorem unplaced_ofMessages (messages : List Message) (policy : Policy) :
    (ofMessages messages policy).unplaced =
      ofMessages (messages.map Message.unplaced) policy := by
  have hsorted : (sortBy (fun m n => Text.precedes m.identifier n.identifier) messages).map
      Message.unplaced = sortBy (fun m n => Text.precedes m.identifier n.identifier)
        (messages.map Message.unplaced) := by
    rw [← List.forall₂_eq_eq_eq, List.forall₂_map_left_iff]
    refine forall₂_sortBy (fun m n m' n' hm hn => hm ▸ hn ▸ rfl) ?_
    rw [← List.forall₂_map_left_iff]
    exact List.forall₂_eq_eq_eq ▸ rfl
  have hlocales : (messages.map Message.unplaced).flatMap Message.locales =
      messages.flatMap Message.locales := by
    rw [List.flatMap_map]
    exact List.flatMap_congr fun m _ => m.locales_unplaced
  rw [unplaced, ofMessages, ofMessages, hlocales]
  exact congrArg (fun l => Catalog.mk l _ policy) hsorted

/-- The places of a catalog do not matter for the check of its languages. -/
theorem checkLanguages_unplaced (c : Catalog) : c.unplaced.checkLanguages = c.checkLanguages := by
  have hmissing : ∀ m : Message, c.unplaced.missingLanguages m.unplaced = c.missingLanguages m := by
    intro m
    rw [missingLanguages, missingLanguages, Message.languages, Message.locales_unplaced]
    rfl
  have hfind : c.unplaced.messages.find? (fun m => !(c.unplaced.missingLanguages m).isEmpty) =
      (c.messages.find? fun m => !(c.missingLanguages m).isEmpty).map Message.unplaced := by
    rw [unplaced, List.find?_map]
    exact congrArg (fun p => (c.messages.find? p).map Message.unplaced)
      (funext fun m => by rw [Function.comp, ← hmissing]; rfl)
  rw [checkLanguages, checkLanguages, hfind]
  cases c.messages.find? fun m => !(c.missingLanguages m).isEmpty with
  | none => rfl
  | some m =>
      rw [Option.map_some]
      dsimp only
      rw [hmissing]
      rfl

/-- Sections that say the same become catalogs that differ in their places only. -/
theorem compile_corresponds {s s' : Sections} (h : List.Forall₂ Section.Relocated s s')
    (config : Config) :
    Corresponds Error.Alike (fun c c' => c.unplaced = c'.unplaced) (compile s config)
      (compile s' config) := by
  rw [compile, compile]
  refine (collect_corresponds (sortSections_relocated h) rfl).bind fun l l' hl => ?_
  have hc : (ofMessages l config.fallback).unplaced = (ofMessages l' config.fallback).unplaced := by
    rw [unplaced_ofMessages, unplaced_ofMessages, hl]
  have hempty : l.isEmpty = l'.isEmpty := by
    rw [← List.isEmpty_map, hl, List.isEmpty_map]
  dsimp only
  rw [hempty]
  by_cases he : l'.isEmpty = true
  · rw [if_pos he, if_pos he]
    exact .error (.fault rfl rfl rfl)
  · rw [if_neg he, if_neg he]
    by_cases hall : config.requireAllLanguages = true
    · rw [if_pos hall, if_pos hall, ← checkLanguages_unplaced, hc, checkLanguages_unplaced]
      cases (ofMessages l' config.fallback).checkLanguages with
      | error f => exact .error (.fault rfl rfl rfl)
      | ok _ => exact .ok hc
    · rw [if_neg hall, if_neg hall]
      exact .ok hc

end Catalog

/-- The places of wordings do not reach the function of a message. -/
theorem Generated.Function.ofMessage_unplaced (m : Message) (policy : Policy) :
    ofMessage m.unplaced policy = ofMessage m policy := by
  have harms : m.unplaced.wordings.map Arm.ofWording = m.wordings.map Arm.ofWording := by
    simp [Message.wordings, Message.unplaced, Wording.unplaced, Arm.ofWording, Function.comp_def]
  have hcandidates : Dispatch.candidates m.unplaced policy = Dispatch.candidates m policy := by
    unfold Dispatch.candidates
    rw [harms]
  rw [ofMessage, ofMessage, Dispatch.ofMessage, Dispatch.ofMessage, Dispatch.sortedCandidates,
    Dispatch.sortedCandidates, hcandidates]
  rfl

namespace Catalog

/-- The places of wordings do not reach the text of a module. -/
theorem moduleText_unplaced (c : Catalog) (config : Config) (data : LocaleData) :
    c.unplaced.moduleText config data = c.moduleText config data := by
  have hidentifiers : c.unplaced.identifiers = c.identifiers := List.map_map
  have hfunctions :
      (c.unplaced.messages.map fun m => Generated.Function.ofMessage m c.unplaced.fallback) =
        c.messages.map fun m => Generated.Function.ofMessage m c.fallback := by
    rw [unplaced, List.map_map]
    exact List.map_congr_left fun m _ => Generated.Function.ofMessage_unplaced m c.fallback
  have hmodule : Generated.Module.ofDefault c.unplaced config =
      Generated.Module.ofDefault c config := by
    funext names default
    rw [Generated.Module.ofDefault, Generated.Module.ofDefault, Generated.exportsOf,
      Generated.exportsOf, hidentifiers, hfunctions]
    rfl
  rw [moduleText, moduleText, Generated.Module.ofCatalog, Generated.Module.ofCatalog, hmodule]
  rfl

/-- Arrangements of one mapping are compiled alike, with equal errors or equal catalogs, and so give
one module. Entries at other places are compiled alike up to the places of errors and of wordings,
and these do not show in the module. -/
theorem compile_arranged_and_relocated (config settings : Config) (data : LocaleData) :
    (∀ s s' : Sections, s.keys.Nodup → s'.keys.Nodup → (∀ key, s.get? key = s'.get? key) →
      compile s config = compile s' config ∧
        (compile s config >>= (·.moduleText settings data)) =
          (compile s' config >>= (·.moduleText settings data))) ∧
    ∀ s s' : Sections, List.Forall₂ Section.Relocated s s' →
      Corresponds Error.Alike
        (fun c c' => c.moduleText settings data = c'.moduleText settings data)
        (compile s config) (compile s' config) := by
  constructor
  · intro s s' h h' hget
    have hcompile := compile_eq_of_sortSections_eq (sortSections_eq_of_get?_eq h h' hget) config
    exact ⟨hcompile, by rw [hcompile]⟩
  · intro s s' h
    refine (compile_corresponds h config).imp fun c c' hc => ?_
    rw [← moduleText_unplaced c, hc, moduleText_unplaced]

/-- The two sections of a menu may trade places, and their entries may move. -/
theorem compile_menu_arranged_and_relocated :
    compile Sections.menu {} = compile Sections.menu.reverse {} ∧
      Corresponds Error.Alike (fun c c' => c.moduleText {} .absent = c'.moduleText {} .absent)
        (compile Sections.menu {}) (compile Sections.movedMenu {}) := by
  obtain ⟨harranged, hrelocated⟩ := compile_arranged_and_relocated {} {} .absent
  constructor
  · refine (harranged _ _ (by decide +kernel) (by decide +kernel) fun key => ?_).1
    by_cases hmenu : "menu.openFiles" = key
    · subst hmenu
      decide +kernel
    · simp [Sections.get?, Sections.menu, List.find?_cons, beq_false_of_ne hmenu]
  · refine hrelocated _ _ (.cons ⟨rfl, ?_⟩ (.cons ⟨rfl, ?_⟩ .nil))
    all_goals exact .cons ⟨rfl, rfl, by decide⟩ (.cons ⟨rfl, rfl, by decide⟩ .nil)

end Catalog

end Phrasebook
