import Phrasebook.Caller.Reference
import Phrasebook.Proofs.Caller.Places
import Phrasebook.Proofs.Sorting

/-!
# Lines of references

The lines of a caller are counted from one. So the tokens that its text is cut into stand on such
lines, and with them the places in its tree and the references that are found there: each of them
has a place that can be reported.
-/

namespace Phrasebook

/-- A reference stands at a place with a property. -/
def Reference.At (P : Nat → Nat → Prop) (r : Reference) : Prop :=
  ∃ line column : Nat, P line column ∧ r.line = line ∧ r.column = column

namespace Caller

section Tokens

/-- Tokens on lines that are counted from one. -/
def Counted (tokens : List Token) : Prop := ∀ token ∈ tokens, 1 ≤ token.line

@[simp] theorem counted_nil : Counted [] := by simp [Counted]

@[simp] theorem counted_cons {token : Token} {tokens : List Token} :
    Counted (token :: tokens) ↔ 1 ≤ token.line ∧ Counted tokens := by
  simp [Counted]

@[simp] theorem counted_append {tokens tokens' : List Token} :
    Counted (tokens ++ tokens') ↔ Counted tokens ∧ Counted tokens' := by
  simp [Counted, or_imp, forall_and]

variable {s : Scanner}

@[simp] theorem line_token (s : Scanner) (kind : TokenKind) (text : String) :
    (s.token kind text).line = s.line := rfl

theorem counted_refuse (h : 1 ≤ s.line) (refusal : CallerRefusal) (immediate : Bool) :
    Counted (s.refuse refusal immediate) := by
  simpa [Scanner.refuse] using h

theorem counted_finish (h : 1 ≤ s.line) : Counted s.finish := by
  rw [Scanner.finish]
  split
  · rw [counted_append]
    constructor
    · intro token htoken
      obtain ⟨_, -, rfl⟩ := List.mem_map.mp htoken
      exact h
    · simpa using h
  · exact counted_refuse h _ _

/-- The scanner does not go back to a line before. -/
private theorem line_le_advance (s : Scanner) (chars : List Char) :
    s.line ≤ (s.advance chars).line := by
  induction chars generalizing s with
  | nil => exact Nat.le_refl _
  | cons c chars ih =>
      rw [Scanner.advance]
      refine Nat.le_trans ?_ (ih _)
      split
      · exact Nat.le_succ s.line
      · exact Nat.le_refl _

theorem le_line_advance (h : 1 ≤ s.line) (chars : List Char) : 1 ≤ (s.advance chars).line :=
  Nat.le_trans h (line_le_advance s chars)

/-- The depth of a line is measured on the line. -/
theorem line_measure (s : Scanner) (wide narrow : Nat) (text : List Char) :
    (measure s wide narrow text).1.line = s.line := by
  induction text generalizing s wide narrow with
  | nil => rfl
  | cons c text ih =>
      rw [measure]
      split_ifs
      · exact ih _ _ _
      · exact ih _ _ _
      · exact ih _ _ _
      · rfl

private theorem counted_indentation (h : 1 ≤ s.line) {wide narrow : Nat} {tokens : List Token}
    {depths : List (Nat × Nat)} (hok : indentation s wide narrow = .ok (tokens, depths)) :
    Counted tokens := by
  have hdedent (count : Nat) : Counted (List.replicate count (s.token .dedent)) := by
    intro token htoken
    rw [List.eq_of_mem_replicate htoken]
    exact h
  simp only [indentation] at hok
  split_ifs at hok
  all_goals
    obtain ⟨rfl, -⟩ := Prod.mk.inj (Except.ok.inj hok)
  · exact counted_nil
  · simpa using h
  · exact hdedent _

/-- The functions that cut a text give counted tokens with some steps to go. -/
private structure Counts (n : Nat) : Prop where
  line : ∀ s text, 1 ≤ s.line → Counted (scanLine n s text)
  continued : ∀ s wide text, 1 ≤ s.line → Counted (scanContinued n s wide text)
  indented : ∀ s wide narrow text, 1 ≤ s.line → Counted (scanIndented n s wide narrow text)
  words : ∀ s text, 1 ≤ s.line → Counted (scanWords n s text)
  word : ∀ s word next, 1 ≤ s.line → Counted (scanWord n s word next)
  string : ∀ s marker mark rest text, 1 ≤ s.line → Counted (scanString n s marker mark rest text)

section Step

variable {n : Nat} (ih : Counts n)

include ih

private theorem counted_scanLine (h : 1 ≤ s.line) (text : List Char) :
    Counted (scanLine (n + 1) s text) := by
  rw [← line_measure s 0 0 text] at h
  rw [scanLine]
  generalize measure s 0 0 text = measured at h ⊢
  obtain ⟨s', wide, narrow, rest⟩ := measured
  dsimp only at h ⊢
  split
  · exact counted_finish h
  · split
    · exact counted_finish h
    · exact ih.line _ _ (Nat.le_add_left 1 _)
  · exact ih.line _ _ (Nat.le_add_left 1 _)
  · split
    · exact counted_refuse h _ _
    · exact ih.continued _ _ _ (Nat.le_add_left 1 _)
  · exact counted_refuse h _ _
  · exact ih.indented _ _ _ _ h

private theorem counted_scanContinued (h : 1 ≤ s.line) (wide : Nat) (text : List Char) :
    Counted (scanContinued (n + 1) s wide text) := by
  rw [← line_measure s wide wide text] at h
  rw [scanContinued]
  generalize measure s wide wide text = measured at h ⊢
  obtain ⟨s', wide', narrow', rest⟩ := measured
  dsimp only at h ⊢
  split
  · exact counted_finish h
  · exact ih.line _ _ h
  · exact ih.line _ _ h
  · split
    · exact counted_refuse h _ _
    · exact ih.continued _ _ _ (Nat.le_add_left 1 _)
  · exact counted_refuse h _ _
  · exact ih.indented _ _ _ _ h

private theorem counted_scanIndented (h : 1 ≤ s.line) (wide narrow : Nat) (text : List Char) :
    Counted (scanIndented (n + 1) s wide narrow text) := by
  rw [scanIndented]
  split
  · exact counted_refuse h _ _
  · rename_i tokens depths hok
    rw [counted_append]
    exact ⟨counted_indentation h hok, ih.words _ _ h⟩

private theorem counted_scanWords (h : 1 ≤ s.line) (text : List Char) :
    Counted (scanWords (n + 1) s text) := by
  cases text with
  | nil => exact counted_finish h
  | cons c rest =>
      unfold scanWords
      split
      · exact ih.words _ _ (le_line_advance h _)
      split
      · exact ih.words _ _ h
      split
      · split
        · exact counted_cons.mpr ⟨h, ih.line _ _ (le_line_advance h _)⟩
        · exact ih.words _ _ (le_line_advance h _)
      split
      · split
        · split
          · exact counted_refuse h _ _
          · exact ih.words _ _ (le_line_advance h _)
        · exact counted_refuse h _ _
      split
      · dsimp only
        split
        · split
          · exact ih.string _ _ _ _ _ h
          · exact ih.word _ _ _ h
        · exact ih.word _ _ _ h
      split
      · split
        · exact counted_refuse h _ _
        · exact counted_cons.mpr ⟨h, ih.words _ _ (le_line_advance h _)⟩
      split
      · exact ih.string _ _ _ _ _ h
      split
      · exact counted_refuse h _ _
      · dsimp only
        split
        · exact counted_refuse h _ _
        · exact counted_cons.mpr ⟨h, ih.words _ _ (le_line_advance h _)⟩

private theorem counted_scanWord (h : 1 ≤ s.line) (word next : List Char) :
    Counted (scanWord (n + 1) s word next) := by
  rw [scanWord]
  split
  · exact counted_refuse h _ _
  · rw [counted_cons]
    exact ⟨h, ih.words _ _ (le_line_advance h _)⟩

private theorem counted_scanString (h : 1 ≤ s.line) (marker : String) (mark : Char)
    (rest text : List Char) : Counted (scanString (n + 1) s marker mark rest text) := by
  rw [scanString]
  split
  · exact counted_refuse h _ _
  · rw [counted_cons]
    exact ⟨h, ih.words _ _ (le_line_advance h _)⟩

end Step

/-- However many steps are left, tokens stand on counted lines. -/
theorem counts (n : Nat) : Counts n := by
  induction n with
  | zero => constructor <;> intros <;> exact counted_refuse ‹_› _ _
  | succ n ih =>
      constructor
      case line => exact fun s text h => counted_scanLine ih h text
      case continued => exact fun s wide text h => counted_scanContinued ih h wide text
      case indented =>
        exact fun s wide narrow text h => counted_scanIndented ih h wide narrow text
      case words => exact fun s text h => counted_scanWords ih h text
      case word => exact fun s word next h => counted_scanWord ih h word next
      case string =>
        exact fun s marker mark rest text h => counted_scanString ih h marker mark rest text

theorem counted_tokens (text : String) : Counted (tokens text) := by
  rw [tokens]
  split
  · simp
  · exact (counts _).line _ _ (Nat.le_refl 1)

end Tokens

section References

variable {P : Nat → Nat → Prop} {modules bound : List String} {source : String} {tree : Tree}
  {r : Reference}

private theorem at_of_mem_importedNames (h : tree.AllPlaces P)
    (hr : r ∈ tree.importedNames modules source) : r.At P := by
  induction tree with
  | empty | name | imports => exact absurd hr List.not_mem_nil
  | «attribute» owner attr line column ih => exact ih h.1 hr
  | importsFrom origin aliases line column =>
      rw [Tree.importedNames] at hr
      split at hr
      · obtain ⟨a, -, rfl⟩ := List.mem_map.mp hr
        exact ⟨line, column, h, rfl, rfl⟩
      · exact absurd hr List.not_mem_nil
  | join first second ihf ihs =>
      rcases List.mem_append.mp hr with hr | hr
      · exact ihf h.1 hr
      · exact ihs h.2 hr

private theorem at_of_mem_accesses (h : tree.AllPlaces P) (hr : r ∈ tree.accesses bound source) :
    r.At P := by
  induction tree with
  | empty | name | imports | importsFrom => exact absurd hr List.not_mem_nil
  | «attribute» owner attr line column ih =>
      rw [Tree.accesses] at hr
      split at hr
      · rcases List.mem_cons.mp hr with rfl | hr
        · exact ⟨line, column, h.2, rfl, rfl⟩
        · exact ih h.1 hr
      · exact ih h.1 hr
  | join first second ihf ihs =>
      rcases List.mem_append.mp hr with hr | hr
      · exact ihf h.1 hr
      · exact ihs h.2 hr

/-- References are at places of the tree. -/
theorem at_of_mem_references (h : tree.AllPlaces P) (hr : r ∈ tree.references modules source) :
    r.At P := by
  rw [Tree.references, mem_sortBy, List.mem_append] at hr
  rcases hr with hr | hr
  · exact at_of_mem_importedNames h hr
  · exact at_of_mem_accesses h hr

/-- A parser counts lines from one. -/
def Parser.Counted (parser : Parser) : Prop :=
  ∀ text tree, parser text = .ok tree → tree.AllPlaces fun line _ => 1 ≤ line

/-- The grammar of callers counts lines from one. -/
theorem counted_parse : Parser.Counted parse :=
  fun text _ h => allPlaces_of_parse (Nat.le_refl 1) (counted_tokens text) h

/-- References on lines that are counted from one have a place that can be reported. -/
theorem exists_span (h : tree.AllPlaces fun line _ => 1 ≤ line)
    (hr : r ∈ tree.references modules source) :
    ∃ line : Nat, r.line = line ∧ r.span = .ok ⟨r.source, some line⟩ := by
  obtain ⟨line, _, hline, hr, -⟩ := at_of_mem_references h hr
  refine ⟨line, hr, ?_⟩
  rw [Reference.span, Span.atLine, hr, if_neg (by omega)]
  rfl

end References

end Caller

end Phrasebook
