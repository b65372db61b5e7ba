import Phrasebook.Proofs.Template.Directive

/-!
# Templates and the marks of their texts

A text is scanned from the left for marks, which are directives and doubled percent signs. The next
mark is the one that begins first, and the scan goes on behind it. There is one such scan of every
text. A template has the marks of its text in order, with the text between them in literal runs; a
text is refused for the first of its marks that shows an integer with a precision.
-/

namespace Phrasebook

open RegularExpression

namespace Template

/-- What a scan finds in a text. -/
inductive Mark
  /-- A doubled percent sign, which stands for a percent sign. -/
  | escape
  /-- A directive. -/
  | directive (d : Directive)
  deriving DecidableEq, Repr

namespace Mark

/-- The text of a mark. -/
def source : Mark → List Char
  | .escape => ['%', '%']
  | .directive d => d.source.toList

/-- The part that a template has for a mark. -/
def segment : Mark → Segment
  | .escape => .literal "%%" "%"
  | .directive d => .directive d

/-- The directive, if the mark is one. -/
def directive? : Mark → Option Directive
  | .escape => none
  | .directive d => some d

/-- A mark whose directive, if it is one, is well formed. -/
def WellFormed : Mark → Prop
  | .escape => True
  | .directive d => d.WellFormed

/-- A mark that shows an integer with a precision. -/
def Refused : Mark → Prop
  | .escape => False
  | .directive d => d.conversion.letter ∈ ['d', 'i', 'x', 'X'] ∧ d.precision ≠ none

end Mark

/-- The pattern of marks: a directive or a doubled percent sign. -/
def markPattern : RegularExpression Char := Directive.pattern + char '%' * char '%'

/-- A mark begins at the start of a text. -/
def Begins (text : List Char) : Prop := ∃ word ∈ markPattern.matches', word <+: text

/-- No mark begins inside a text, even if it ended in what follows. -/
def Clear (text rest : List Char) : Prop :=
  ∀ before after, text = before ++ after → after ≠ [] → ¬ Begins (after ++ rest)

/-- The marks that are found in a text from the left. -/
inductive Scan : List Char → List Mark → Prop
  /-- There is no mark left. -/
  | done {gap : List Char} (hgap : Clear gap []) : Scan gap []
  /-- No mark begins before the next one, and the scan goes on behind it. -/
  | next {gap rest : List Char} {mark : Mark} {marks : List Mark}
      (hgap : Clear gap (mark.source ++ rest)) (hmark : mark.WellFormed) (h : Scan rest marks) :
      Scan (gap ++ (mark.source ++ rest)) (mark :: marks)

section Marks

variable {text rest : List Char}

/-- The words of the pattern are the texts of well-formed marks. -/
theorem mem_markPattern {word : List Char} :
    word ∈ markPattern.matches' ↔ ∃ m : Mark, m.WellFormed ∧ m.source = word := by
  rw [markPattern, matches'_add, Language.mem_add, Directive.mem_pattern, matches'_mul,
    Language.mem_mul]
  constructor
  · rintro (⟨d, hd, rfl⟩ | ⟨_, rfl, _, rfl, rfl⟩)
    · exact ⟨.directive d, hd, rfl⟩
    · exact ⟨.escape, trivial, rfl⟩
  · rintro ⟨m, hm, rfl⟩
    cases m with
    | escape => exact .inr ⟨['%'], rfl, ['%'], rfl, rfl⟩
    | directive d => exact .inl ⟨d, hm, rfl⟩

theorem begins_iff : Begins text ↔ ∃ (m : Mark) (rest : List Char), m.WellFormed ∧
    m.source ++ rest = text := by
  constructor
  · rintro ⟨word, hword, rest, htext⟩
    obtain ⟨m, hm, rfl⟩ := mem_markPattern.mp hword
    exact ⟨m, rest, hm, htext⟩
  · rintro ⟨m, rest, hm, htext⟩
    exact ⟨m.source, mem_markPattern.mpr ⟨m, hm, rfl⟩, rest, htext⟩

/-- A mark begins with a percent sign. -/
theorem Mark.exists_source_eq (m : Mark) : ∃ tail, m.source = '%' :: tail := by
  cases m with
  | escape => exact ⟨['%'], rfl⟩
  | directive d =>
      have hsource := d.toList_source_append []
      rw [List.append_nil] at hsource
      exact ⟨_, hsource⟩

theorem Mark.source_append_ne_nil (m : Mark) (rest : List Char) : m.source ++ rest ≠ [] := by
  obtain ⟨tail, htail⟩ := m.exists_source_eq
  simp [htail]

/-- No directive begins with two percent signs. -/
theorem directive_source_ne_escape {d : Directive} (hd : d.WellFormed) (rest rest' : List Char) :
    d.source.toList ++ rest ≠ '%' :: '%' :: rest' := by
  intro h
  have hread := Directive.read?_of_wellFormed hd h
  cases hread

/-- A text begins with at most one mark. -/
theorem Mark.eq_of_append_eq {m m' : Mark} {rest rest' : List Char} (hm : m.WellFormed)
    (hm' : m'.WellFormed) (h : m.source ++ rest = m'.source ++ rest') : m = m' ∧ rest = rest' := by
  cases m with
  | escape =>
      cases m' with
      | escape => exact ⟨rfl, List.append_cancel_left h⟩
      | directive d' => exact absurd h.symm (directive_source_ne_escape hm' rest' rest)
  | directive d =>
      cases m' with
      | escape => exact absurd h (directive_source_ne_escape hm rest rest')
      | directive d' =>
          obtain ⟨tail, htail⟩ := (Mark.directive d).exists_source_eq
          have htext : (Mark.directive d).source ++ rest = '%' :: (tail ++ rest) :=
            congrArg (· ++ rest) htail
          have hread := Directive.read?_of_wellFormed hm htext
          rw [Directive.read?_of_wellFormed hm' (h.symm.trans htext)] at hread
          obtain ⟨rfl, rfl⟩ := Prod.mk.inj (Option.some.inj hread)
          exact ⟨rfl, rfl⟩

theorem begins_source_append {m : Mark} (hm : m.WellFormed) (rest : List Char) :
    Begins (m.source ++ rest) :=
  begins_iff.mpr ⟨m, rest, hm, rfl⟩

/-- A mark begins only at a percent sign. -/
theorem not_begins_of_ne {c : Char} (h : c ≠ '%') (rest : List Char) : ¬ Begins (c :: rest) := by
  intro hbegins
  obtain ⟨m, rest', -, htext⟩ := begins_iff.mp hbegins
  obtain ⟨tail, htail⟩ := m.exists_source_eq
  rw [htail] at htext
  exact h (List.cons.inj htext).1.symm

/-- No mark begins at a percent sign that is not doubled and in front of which no directive is
read. -/
theorem not_begins_percent (hescape : ∀ tail, rest ≠ '%' :: tail)
    (hread : Directive.read? rest = none) : ¬ Begins ('%' :: rest) := by
  intro hbegins
  obtain ⟨m, rest', hm, htext⟩ := begins_iff.mp hbegins
  cases m with
  | escape => exact hescape rest' (List.cons.inj htext).2.symm
  | directive d =>
      rw [Directive.read?_of_wellFormed hm htext] at hread
      cases hread

end Marks

section Gaps

variable {gap gap' text text' rest : List Char}

theorem clear_nil (rest : List Char) : Clear [] rest := by
  intro before after h hne
  exact absurd (List.append_eq_nil_iff.mp h.symm).2 hne

/-- A character at which no mark begins extends a text without one. -/
theorem Clear.snoc {c : Char} (h : Clear gap (c :: rest)) (hc : ¬ Begins (c :: rest)) :
    Clear (gap ++ [c]) rest := by
  intro before after hsplit hne
  obtain ⟨init, last, rfl⟩ := (List.eq_nil_or_concat' after).resolve_left hne
  rw [← List.append_assoc] at hsplit
  obtain ⟨hgap, hlast⟩ := List.append_inj' hsplit rfl
  obtain rfl : c = last := by simpa using hlast
  rw [List.append_assoc, List.singleton_append]
  cases init with
  | nil => exact hc
  | cons d init => exact h before (d :: init) hgap (by simp)

/-- Where a text without a mark ends and a mark begins is the same in every reading. -/
theorem Clear.eq_of_append_eq (h : Clear gap text) (h' : Clear gap' text') (hbegins : Begins text)
    (hbegins' : Begins text') (he : gap ++ text = gap' ++ text') : gap = gap' ∧ text = text' := by
  rcases List.append_eq_append_iff.mp he with ⟨more, hgap, htext⟩ | ⟨more, hgap, htext⟩
  · by_cases hmore : more = []
    · simp_all
    · exact absurd (htext ▸ hbegins) (h' gap more hgap hmore)
  · by_cases hmore : more = []
    · simp_all
    · exact absurd (htext ▸ hbegins') (h gap' more hgap hmore)

end Gaps

namespace Scan

variable {gap text rest : List Char} {mark : Mark} {marks marks' : List Mark}

/-- A text in which no mark begins has none. -/
theorem eq_nil (h : Scan text marks) (htext : Clear text []) : marks = [] := by
  cases h with
  | done => rfl
  | @next gap rest mark marks _ hmark _ =>
      have hnot := htext gap (mark.source ++ rest) rfl (mark.source_append_ne_nil rest)
      rw [List.append_nil] at hnot
      exact absurd (begins_source_append hmark rest) hnot

/-- The first mark of a text is the one that begins first, and the others are those behind it. -/
theorem exists_cons (h : Scan text marks) (htext : text = gap ++ (mark.source ++ rest))
    (hgap : Clear gap (mark.source ++ rest)) (hmark : mark.WellFormed) :
    ∃ others, marks = mark :: others ∧ Scan rest others := by
  have hbegins := begins_source_append hmark rest
  cases h with
  | done hdone =>
      have hnot := hdone gap (mark.source ++ rest) htext (mark.source_append_ne_nil rest)
      rw [List.append_nil] at hnot
      exact absurd hbegins hnot
  | @next _ rest' _ others hgap' hmark' hothers =>
      have hbegins' := begins_source_append hmark' rest'
      obtain ⟨-, he⟩ := hgap'.eq_of_append_eq hgap hbegins' hbegins htext
      obtain ⟨rfl, rfl⟩ := Mark.eq_of_append_eq hmark' hmark he
      exact ⟨others, rfl, hothers⟩

/-- There is at most one scan of a text. -/
theorem unique (h : Scan text marks) (h' : Scan text marks') : marks' = marks := by
  induction h generalizing marks' with
  | done hgap => exact h'.eq_nil hgap
  | next hgap hmark _ ih =>
      obtain ⟨others, rfl, hothers⟩ := h'.exists_cons rfl hgap hmark
      rw [ih hothers]

/-- The marks that a scan finds are well formed. -/
theorem wellFormed (h : Scan text marks) : ∀ m ∈ marks, m.WellFormed := by
  induction h with
  | done => exact nofun
  | next _ hmark _ ih => exact List.forall_mem_cons.mpr ⟨hmark, ih⟩

/-- Every text can be scanned, whatever has been passed over in front of it. -/
private theorem exists_append (hgap : Clear gap text) : ∃ marks, Scan (gap ++ text) marks := by
  induction hn : text.length using Nat.strong_induction_on generalizing gap text with
  | _ n ih =>
    by_cases hbegins : Begins text
    · obtain ⟨mark, rest, hmark, rfl⟩ := begins_iff.mp hbegins
      have hlt : rest.length < n := by
        obtain ⟨tail, htail⟩ := mark.exists_source_eq
        rw [← hn, htail, List.length_append, List.length_cons]
        omega
      obtain ⟨marks, hmarks⟩ := ih rest.length hlt (clear_nil rest) rfl
      exact ⟨mark :: marks, .next hgap hmark hmarks⟩
    · cases text with
      | nil => exact ⟨[], .done (by rwa [List.append_nil])⟩
      | cons c rest =>
          have hlt : rest.length < n := hn ▸ Nat.lt_succ_self rest.length
          simpa using ih rest.length hlt (hgap.snoc hbegins) rfl

/-- Every text can be scanned. -/
theorem exists_of_text (text : List Char) : ∃ marks, Scan text marks :=
  exists_append (clear_nil text)

end Scan

end Template

end Phrasebook
