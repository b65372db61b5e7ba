import Phrasebook.Proofs.Compilation.Step
import Phrasebook.Proofs.Section.Reading

/-!
# How loading a catalog fails

Loading a catalog ends with a fault of its sources or not at all. The conditions on parts that are
built by hand are met by every part that is read: lines are counted from one as they are read, and a
section with an entry gives a message with a wording. Each step is shown to fail by a fault only;
sequences of such steps do so too.
-/

namespace Phrasebook

variable {α β : Type}

/-- A place whose line, if it has one, is counted from one. -/
def Span.Counted (span : Span) : Prop := ∀ n, span.line = some n → 1 ≤ n

/-- A fault whose place, if it has one, is valid. -/
def Fault.Placed (f : Fault) : Prop := ∀ span, f.span = some span → span.Counted

/-- A step that fails, if it does, with a fault at a valid place. -/
def FailsByFault (x : Except Error α) : Prop :=
  ∀ error, x = .error error → ∃ f : Fault, error = .fault f ∧ f.Placed

namespace FailsByFault

theorem ok (a : α) : FailsByFault (.ok a) := by
  intro error h
  cases h

theorem fault {f : Fault} (h : f.Placed) : FailsByFault (.error (.fault f) : Except Error α) := by
  intro error he
  exact ⟨f, (Except.error.inj he).symm, h⟩

/-- A step that reports faults keeps to them. -/
theorem lift {x : Except Fault α} (h : ∀ f, x = .error f → f.Placed) : FailsByFault (liftM x) := by
  cases x with
  | ok a => exact ok a
  | error f => exact fault (h f rfl)

/-- A sequence of two steps fails by a fault if both do, the second one behind every result of the
first. -/
theorem bind {x : Except Error α} {f : α → Except Error β} (hx : FailsByFault x)
    (hf : ∀ a, x = .ok a → FailsByFault (f a)) : FailsByFault (x >>= f) := by
  cases x with
  | error e =>
      obtain ⟨f, rfl, hplaced⟩ := hx e rfl
      exact fault hplaced
  | ok a => exact hf a rfl

/-- A step for every element of a list fails by a fault if each of them does. -/
theorem mapM {f : α → Except Error β} {l : List α} (h : ∀ a ∈ l, FailsByFault (f a)) :
    FailsByFault (l.mapM f) := by
  induction l with
  | nil => exact ok []
  | cons a rest ih =>
      rw [List.mapM_cons]
      have hrest : FailsByFault (rest.mapM f) := ih fun b hb => h b (List.mem_cons_of_mem a hb)
      refine bind (h a (List.mem_cons_self ..)) fun b _ => ?_
      exact bind hrest fun others _ => ok (b :: others)

end FailsByFault

section Faults

variable {span : Span} {f : Fault}

/-- A fault without a place needs no valid one. -/
theorem Fault.placed_of_span_eq_none (h : f.span = none) : f.Placed := by
  intro span hspan
  rw [h] at hspan
  cases hspan

theorem Fault.placed_of_span_eq_some (hspan : span.Counted) (h : f.span = some span) :
    f.Placed := by
  intro span' hspan'
  rw [h] at hspan'
  exact Option.some.inj hspan' ▸ hspan

/-- The place of an entry is valid. -/
theorem Entry.counted_of_span {e : Entry} (h : e.span = .ok span) : span.Counted := by
  obtain ⟨hline, rfl⟩ := Entry.span_eq_ok_iff.mp h
  intro n hn
  have hn : e.line.toNat = n := Option.some.inj hn
  omega

theorem Locale.placed_of_ofTag {tag : String} (hspan : span.Counted)
    (h : Locale.ofTag tag (some span) = .error f) : f.Placed := by
  unfold Locale.ofTag at h
  split at h
  · cases h
  · exact Fault.placed_of_span_eq_some hspan (Except.error.inj h ▸ rfl)

theorem Template.placed_of_ofText {text : String} (hspan : span.Counted)
    (h : Template.ofText text (some span) = .error f) : f.Placed := by
  unfold Template.ofText at h
  split at h
  · cases h
  · exact Fault.placed_of_span_eq_some hspan (Except.error.inj h ▸ rfl)

theorem Key.placed_of_validate {identifier key : String} (hspan : span.Counted)
    (h : Key.validate identifier key (some span) = .error f) : f.Placed := by
  unfold Key.validate at h
  split at h
  · cases h
  · exact Fault.placed_of_span_eq_some hspan (Except.error.inj h ▸ rfl)

end Faults

section Steps

variable {e : Entry} {s : Section}

/-- The place of an entry is there if its line is counted from one. -/
theorem Entry.failsByFault_span (h : 1 ≤ e.line) : FailsByFault (liftM e.span) := by
  rw [Entry.span_eq_ok_iff.mpr ⟨h, rfl⟩]
  exact .ok _

theorem Wording.failsByFault_ofEntry (h : 1 ≤ e.line) : FailsByFault (Wording.ofEntry e) := by
  refine (Entry.failsByFault_span h).bind fun span hspan => ?_
  have hcounted := Entry.counted_of_span (liftM_invalid_eq_ok_iff.mp hspan)
  refine (FailsByFault.lift fun f hf => Locale.placed_of_ofTag hcounted hf).bind fun l _ => ?_
  exact (FailsByFault.lift fun f hf => Template.placed_of_ofText hcounted hf).bind fun t _ => .ok _

theorem Message.failsByFault_wordingOf (h : 1 ≤ e.line) (key : String) (arity : Nat) :
    FailsByFault (Message.wordingOf key arity e) := by
  refine (Wording.failsByFault_ofEntry h).bind fun w hw => ?_
  split
  · exact .ok w
  · have hspan := (Wording.ofEntry_eq_ok_iff.mp hw).span
    refine .fault (Fault.placed_of_span_eq_some ?_ hspan)
    exact Entry.counted_of_span (Entry.span_eq_ok_iff.mpr ⟨h, rfl⟩)

/-- A section becomes a message or is at fault. -/
theorem Message.failsByFault_ofSection (h : ∀ e ∈ s.entries, 1 ≤ e.line) :
    FailsByFault (Message.ofSection s) := by
  rw [Message.ofSection]
  cases hs : s.entries with
  | nil => exact .fault (Fault.placed_of_span_eq_none rfl)
  | cons first rest =>
      rw [hs] at h
      obtain ⟨hfirst, hrest⟩ := List.forall_mem_cons.mp h
      refine (Entry.failsByFault_span hfirst).bind fun span hspan => ?_
      have hcounted := Entry.counted_of_span (liftM_invalid_eq_ok_iff.mp hspan)
      refine (FailsByFault.lift fun f hf => Key.placed_of_validate hcounted hf).bind fun _ _ => ?_
      refine (Wording.failsByFault_ofEntry hfirst).bind fun w _ => ?_
      refine FailsByFault.bind ?_ fun others _ => .ok _
      exact .mapM fun e he => Message.failsByFault_wordingOf (hrest e he) s.key _

end Steps

namespace Message

/-- Behind a first wording, the entries are read one by one against its number of values. -/
private theorem wordingsAfter_cons (key : String) (first : Wording) (found : List Wording)
    (entries : List Entry) : wordingsAfter key (first :: found) entries = (do
      let rest ← entries.mapM (wordingOf key first.template.arity)
      return first :: found ++ rest) := by
  induction entries generalizing found with
  | nil => simp [wordingsAfter, pure, Except.pure, bind, Except.bind]
  | cons e entries ih =>
      rw [wordingsAfter, List.mapM_cons, wordingOf]
      cases Wording.ofEntry e with
      | error error => rfl
      | ok w =>
          simp only [bind, Except.bind, List.head?_cons]
          by_cases ha : w.template.arity = first.template.arity
          · rw [if_pos ha, if_pos ha, List.cons_append, ih]
            cases entries.mapM (wordingOf key first.template.arity) with
            | error error => rfl
            | ok rest => simp [pure, Except.pure, bind, Except.bind]
          · rw [if_neg ha, if_neg ha]
            rfl

/-- No section with an entry gives a message without wordings, so that the check changes
nothing. -/
theorem ofSectionChecked_eq (s : Section) : ofSectionChecked s = ofSection s := by
  rw [ofSectionChecked, ofSection]
  cases hs : s.entries with
  | nil => rfl
  | cons first rest =>
      rw [wordingsAfter]
      refine bind_congr fun span => bind_congr fun _ => ?_
      cases Wording.ofEntry first with
      | error error => rfl
      | ok w =>
          change (wordingsAfter s.key [w] rest >>= _) = (rest.mapM _ >>= _)
          rw [wordingsAfter_cons]
          cases rest.mapM (wordingOf s.key w.template.arity) with
          | error error => rfl
          | ok others => rfl

end Message

namespace Catalog

theorem failsByFault_collect {found : List Message} {sections : List Section}
    (h : Sections.Every (1 ≤ ·.line) sections) : FailsByFault (collect found sections) := by
  induction sections generalizing found with
  | nil => exact .ok found
  | cons s rest ih =>
      obtain ⟨hs, hrest⟩ := List.forall_mem_cons.mp h
      rw [collect]
      refine (Message.failsByFault_ofSection hs).bind fun m _ => ?_
      split
      · exact .fault (Fault.placed_of_span_eq_none rfl)
      · exact ih hrest

theorem placed_of_checkLanguages {c : Catalog} {f : Fault} (h : c.checkLanguages = .error f) :
    f.Placed := by
  rw [checkLanguages] at h
  split at h
  · exact Fault.placed_of_span_eq_none (Except.error.inj h ▸ rfl)
  · cases h

/-- Sections whose lines are counted from one become a catalog or are at fault. -/
theorem failsByFault_compile {sections : Sections} (h : sections.Every (1 ≤ ·.line))
    (config : Config) : FailsByFault (compile sections config) := by
  have hsorted : Sections.Every (1 ≤ ·.line) (sortSections sections) :=
    fun s hs => h s (mem_sortBy.mp hs)
  rw [compile]
  refine (failsByFault_collect hsorted).bind fun messages _ => ?_
  dsimp only
  split
  · exact .fault (Fault.placed_of_span_eq_none rfl)
  · split
    · exact (FailsByFault.lift fun f hf => placed_of_checkLanguages hf).bind fun _ _ => .ok _
    · exact .ok _

end Catalog

namespace Source

variable {store : Store}

/-- Entries of a source stand on lines that are counted from one. -/
theorem one_le_line_of_read {x : Source} {name : Option String} {sections : Sections}
    (h : x.read store name = .ok sections) : sections.Every (1 ≤ ·.line) := by
  rw [read] at h
  split at h
  · exact Sections.one_le_line_of_ofText h
  · cases h

private theorem one_le_line_of_readEach {sources : List Source} {position : Nat}
    {catalogs : List Sections} (h : readEach store position sources = .ok catalogs) :
    ∀ sections ∈ catalogs, sections.Every (1 ≤ ·.line) := by
  induction sources generalizing position catalogs with
  | nil =>
      obtain rfl := Except.ok.inj h
      simp
  | cons x rest ih =>
      rw [readEach] at h
      obtain ⟨sections, hsections, h⟩ := bind_eq_ok_iff.mp h
      obtain ⟨others, hothers, h⟩ := bind_eq_ok_iff.mp h
      obtain rfl := Except.ok.inj h
      exact List.forall_mem_cons.mpr ⟨one_le_line_of_read hsections, ih hothers⟩

theorem one_le_line_of_readAll {sources : List Source} {sections : Sections}
    (h : readAll store sources = .ok sections) : sections.Every (1 ≤ ·.line) := by
  obtain ⟨catalogs, hcatalogs, rfl⟩ := map_eq_ok_iff.mp h
  exact Sections.every_merge (one_le_line_of_readEach hcatalogs)

/-- A source that cannot be read is at fault as a whole, or on a line that is counted from one. -/
theorem placed_of_read {x : Source} {name : Option String} {f : Fault}
    (h : x.read store name = .error f) : f.Placed := by
  rw [read] at h
  split at h
  · obtain ⟨n, hn, rfl⟩ := Sections.exists_of_ofText_error h
    refine Fault.placed_of_span_eq_some ?_ rfl
    exact fun n' hn' => Option.some.inj hn' ▸ hn
  · obtain rfl := Except.error.inj h
    refine Fault.placed_of_span_eq_some ?_ rfl
    intro n hn
    cases hn

private theorem placed_of_readEach {sources : List Source} {position : Nat} {f : Fault}
    (h : readEach store position sources = .error f) : f.Placed := by
  induction sources generalizing position with
  | nil => cases h
  | cons x rest ih =>
      rw [readEach] at h
      cases hread : x.read store (x.numberedName position) with
      | error f' =>
          rw [hread] at h
          obtain rfl := Except.error.inj h
          exact placed_of_read hread
      | ok sections =>
          cases heach : readEach store (position + 1) rest with
          | error f' =>
              rw [hread, heach] at h
              obtain rfl := Except.error.inj h
              exact ih heach
          | ok others =>
              rw [hread, heach] at h
              cases h

theorem placed_of_readAll {sources : List Source} {f : Fault}
    (h : readAll store sources = .error f) : f.Placed := by
  rw [readAll] at h
  cases heach : readEach store 1 sources with
  | error f' =>
      rw [heach] at h
      obtain rfl := Except.error.inj h
      exact placed_of_readEach heach
  | ok catalogs =>
      rw [heach] at h
      cases h

end Source

/-- Loading a catalog fails by a fault. -/
theorem Catalog.failsByFault_load (store : Store) (sources : List Source) (config : Config) :
    FailsByFault (Catalog.load store sources config) := by
  refine (FailsByFault.lift fun f hf => Source.placed_of_readAll hf).bind fun sections h => ?_
  exact failsByFault_compile (Source.one_le_line_of_readAll (liftM_fault_eq_ok_iff.mp h)) config

end Phrasebook
