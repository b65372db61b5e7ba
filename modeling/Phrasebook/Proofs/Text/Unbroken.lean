import Phrasebook.Proofs.Text.Literal
import Phrasebook.Text.Blank
import Phrasebook.Text.IdentifierChar

/-!
# Texts on one line

Ten characters may end a line, depending on who reads the text. A literal holds none of them,
whatever its text is: they are no printable characters, so that each is written by an escape. Nor
does an identifier. So a literal can be read back wherever it stands in a line.
-/

namespace Phrasebook.Text

/-- The code points of the characters that may end a line: the line feed, the vertical tabulator,
the form feed and the carriage return, three separators of information, the next line, and the
separators of lines and paragraphs. -/
def lineBreaks : List Nat := [0xa, 0xb, 0xc, 0xd, 0x1c, 0x1d, 0x1e, 0x85, 0x2028, 0x2029]

/-- Whether a character may end a line. -/
def isLineBreak (c : Char) : Bool := lineBreaks.contains c.toNat

/-- A text that stays on one line. -/
def Unbroken (text : String) : Prop := ∀ c ∈ text.toList, isLineBreak c = false

instance (text : String) : Decidable (Unbroken text) :=
  decidable_of_iff (text.toList.all (fun c => !isLineBreak c) = true) (by simp [Unbroken])

/-- A text that ends in a visible character. -/
def Closed (text : String) : Prop := ∃ c, text.toList.getLast? = some c ∧ isBlank c = false

section Joining

variable {a b : String} {chars : List Char}

/-- A text is checked by its characters. -/
theorem Unbroken.ofList (h : chars.all (fun c => !isLineBreak c) = true) :
    Unbroken (String.ofList chars) := by
  simpa [Unbroken] using h

theorem Closed.ofList (h : chars.getLast?.any (fun c => !isBlank c) = true) :
    Closed (String.ofList chars) := by
  obtain ⟨c, hc, hblank⟩ := (Option.any_eq_true ..).mp h
  exact ⟨c, by rw [String.toList_ofList, hc], by simpa using hblank⟩

@[simp] theorem unbroken_append : Unbroken (a ++ b) ↔ Unbroken a ∧ Unbroken b := by
  simp only [Unbroken, String.toList_append, List.forall_mem_append]

theorem Unbroken.append (ha : Unbroken a) (hb : Unbroken b) : Unbroken (a ++ b) :=
  unbroken_append.mpr ⟨ha, hb⟩

/-- A text between fixed characters is checked by these. -/
theorem Unbroken.enclose {chars' : List Char} (ha : Unbroken a)
    (h : chars.all (fun c => !isLineBreak c) = true)
    (h' : chars'.all (fun c => !isLineBreak c) = true) :
    Unbroken (String.ofList chars ++ a ++ String.ofList chars') :=
  ((Unbroken.ofList h).append ha).append (.ofList h')

theorem unbroken_intercalate {separator : String} {items : List String}
    (hseparator : Unbroken separator) (h : ∀ item ∈ items, Unbroken item) :
    Unbroken (separator.intercalate items) := by
  induction items with
  | nil => exact fun c hc => absurd hc (by simp)
  | cons item rest ih =>
      obtain ⟨hitem, hrest⟩ := List.forall_mem_cons.mp h
      cases rest with
      | nil => simpa using hitem
      | cons next rest =>
          rw [String.intercalate_cons_cons, unbroken_append, unbroken_append]
          exact ⟨⟨hitem, hseparator⟩, ih hrest⟩

/-- A text ends as its last part does. -/
theorem Closed.append (h : Closed b) (a : String) : Closed (a ++ b) := by
  obtain ⟨c, hc, hblank⟩ := h
  refine ⟨c, ?_, hblank⟩
  rw [String.toList_append, List.getLast?_append, hc]
  rfl

theorem Closed.ne_empty (h : Closed a) : a ≠ "" := by
  obtain ⟨c, hc, -⟩ := h
  rintro rfl
  cases hc

end Joining

section Characters

/-- A character of a set that holds none of those which may end a line. -/
theorem isLineBreak_of_contains {set : CodePointSet} {c : Char}
    (h : lineBreaks.all (fun n => !CodePointSet.memberAt set.changes n false) = true)
    (hc : set.contains c = true) : isLineBreak c = false := by
  rw [List.all_eq_true] at h
  by_contra hbreak
  have hmem := h c.toNat (List.contains_iff_mem.mp (Bool.not_eq_false _ ▸ hbreak))
  rw [CodePointSet.contains] at hc
  simp [hc] at hmem

theorem isLineBreak_of_isDigit {c : Char} (h : c.isDigit = true) : isLineBreak c = false := by
  rw [Char.isDigit, Bool.and_eq_true, decide_eq_true_eq, decide_eq_true_eq] at h
  have hlow : 48 ≤ c.toNat := h.1
  have hhigh : c.toNat ≤ 57 := h.2
  simp only [isLineBreak, lineBreaks, List.contains_eq_mem, decide_eq_false_iff_not, List.mem_cons,
    List.not_mem_nil, or_false, not_or]
  omega

theorem isLineBreak_digitChar : ∀ d < 16, isLineBreak (Nat.digitChar d) = false := by decide

theorem isLineBreak_of_isMark {mark : Char} (h : IsMark mark) : isLineBreak mark = false := by
  rcases h with rfl | rfl <;> rfl

theorem isBlank_of_isMark {mark : Char} (h : IsMark mark) : isBlank mark = false := by
  rcases h with rfl | rfl <;> rfl

/-- What a character is written as in a body does not end the line. -/
theorem isLineBreak_of_mem_escapeChar {mark c d : Char} (hmark : IsMark mark)
    (h : d ∈ escapeChar mark c) : isLineBreak d = false := by
  have hcode (kind : Char) (hkind : isLineBreak kind = false) (width n : Nat)
      (h : d ∈ '\\' :: kind :: hexDigits width n) : isLineBreak d = false := by
    rcases List.mem_cons.mp h with rfl | h
    · rfl
    · rcases List.mem_cons.mp h with rfl | h
      · exact hkind
      · obtain ⟨digit, hdigit, rfl⟩ := mem_hexDigits h
        exact isLineBreak_digitChar digit hdigit
  unfold escapeChar at h
  split_ifs at h with hescaped hn hr ht hprintable
  · have hc : isLineBreak c = false := by
      rcases hescaped with rfl | rfl
      · exact isLineBreak_of_isMark hmark
      · rfl
    rcases List.mem_cons.mp h with rfl | h
    · rfl
    · exact List.mem_singleton.mp h ▸ hc
  · exact hcode 'n' rfl 0 0 h
  · exact hcode 'r' rfl 0 0 h
  · exact hcode 't' rfl 0 0 h
  · exact List.mem_singleton.mp h ▸ isLineBreak_of_contains (by decide +kernel) hprintable
  · unfold escapeCode at h
    split_ifs at h
    · exact hcode 'x' rfl _ _ h
    · exact hcode 'u' rfl _ _ h
    · exact hcode 'U' rfl _ _ h

end Characters

/-- A literal stays on one line, whatever its text is. -/
theorem unbroken_literal (text : String) : Unbroken (literal text) := by
  have hmark := isMark_literalMarkFor text.toList
  intro c hc
  rw [literal, String.toList_ofList, enclose] at hc
  rcases List.mem_cons.mp hc with rfl | hc
  · exact isLineBreak_of_isMark hmark
  · rcases List.mem_append.mp hc with hc | hc
    · obtain ⟨d, -, hd⟩ := List.mem_flatMap.mp hc
      exact isLineBreak_of_mem_escapeChar hmark hd
    · exact List.mem_singleton.mp hc ▸ isLineBreak_of_isMark hmark

/-- A literal ends in its mark. -/
theorem closed_literal (text : String) : Closed (literal text) := by
  refine ⟨literalMarkFor text.toList, ?_, isBlank_of_isMark (isMark_literalMarkFor _)⟩
  rw [literal, String.toList_ofList, enclose, ← List.cons_append, List.getLast?_concat]

section Marks

variable {mark mark' : Char} {text : List Char}

/-- A text is escaped alike for two marks that it does not have. -/
private theorem escape_congr (h : mark ∉ text) (h' : mark' ∉ text) :
    escape mark text = escape mark' text := by
  refine List.flatMap_congr fun c hc => ?_
  have hmark : c ≠ mark := fun he => h (he ▸ hc)
  have hmark' : c ≠ mark' := fun he => h' (he ▸ hc)
  simp [escapeChar, hmark, hmark']

/-- A literal is in quotation marks unless its text has one. -/
private theorem literalMarkFor_eq (text : List Char) :
    literalMarkFor text = if quotationMark ∈ text then apostrophe else quotationMark := by
  rw [literalMarkFor, markFor]
  by_cases hapostrophe : apostrophe ∈ text <;> by_cases hquotation : quotationMark ∈ text <;>
    simp [hapostrophe, hquotation]

/-- A literal differs from the quoted text at most in the marks around it. -/
private theorem escape_literalMarkFor (text : List Char) :
    escape (literalMarkFor text) text = escape (markFor text) text := by
  rw [literalMarkFor]
  split
  · rename_i h
    have hmark : markFor text = apostrophe := if_neg fun hother => h.1 hother.1
    rw [hmark]
    exact escape_congr h.2 h.1
  · rfl

end Marks

/-- A literal is read back as its text. It stands between two marks of one kind, quotation marks
unless the text has one, and has the body of the quoted text. Whatever follows it, the scan behind
the first mark ends at the last character of the literal and not before. It stays on one line, and
its body denotes the text. -/
theorem literal_reads_back (text : String) : ∃ mark body,
    (literal text).toList = mark :: (body ++ [mark]) ∧
    mark = (if quotationMark ∈ text.toList then apostrophe else quotationMark) ∧
    (∃ mark', IsMark mark' ∧ (quoted text).toList = mark' :: (body ++ [mark'])) ∧
    (∀ after, scanBody mark (body ++ mark :: after) = some (body, after)) ∧
    Unbroken (literal text) ∧ unescape? body = some text.toList := by
  have hmark := isMark_literalMarkFor text.toList
  refine ⟨literalMarkFor text.toList, escape (literalMarkFor text.toList) text.toList, ?_,
    literalMarkFor_eq text.toList, ⟨markFor text.toList, isMark_markFor text.toList, ?_⟩,
    fun after => ?_, unbroken_literal text, unescape?_escape hmark text.toList⟩
  · rw [literal, String.toList_ofList, enclose]
  · rw [quoted, String.toList_ofList, enclose, escape_literalMarkFor]
  · rw [scans_escape hmark text.toList (literalMarkFor text.toList :: after), scanBody_mark hmark]
    simp

/-- An identifier stays on one line. -/
theorem unbroken_of_isIdentifier {text : String} (h : isIdentifier text.toList = true) :
    Unbroken text := by
  intro c hc
  cases hlist : text.toList with
  | nil =>
      rw [hlist] at hc
      cases hc
  | cons d rest =>
      rw [hlist, isIdentifier, Bool.and_eq_true, List.all_eq_true] at h
      rw [hlist] at hc
      rcases List.mem_cons.mp hc with rfl | hc
      · exact isLineBreak_of_contains (by decide +kernel) h.1
      · exact isLineBreak_of_contains (by decide +kernel) (h.2 c hc)

end Phrasebook.Text
