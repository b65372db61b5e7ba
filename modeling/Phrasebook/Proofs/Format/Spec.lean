import Mathlib.Data.List.TakeWhile
import Phrasebook.Format.Spec
import Phrasebook.Proofs.Text.Line

/-!
# Reading specifications of replacement fields

A specification is read part by part. An alignment, a sign or the mark of the alternate form is
taken where it stands, since no later part begins with the same character. Only the first zero of a
width is more than a digit: it asks for zeros as padding, and the width is the same with it or
without it.
-/

namespace Phrasebook.Format

open Number Text

/-- The number that decimal digits denote. -/
def digitsValue (digits : List Char) : Nat :=
  ofDigits (digits.map fun c => c.toNat - '0'.toNat)

section Digits

private theorem digitsValue_zero_cons (digits : List Char) :
    digitsValue ('0' :: digits) = digitsValue digits := rfl

/-- Leading zeros do not change a number. -/
theorem digitsValue_dropWhile (digits : List Char) :
    digitsValue (digits.dropWhile (· = '0')) = digitsValue digits := by
  induction digits with
  | nil => rfl
  | cons c digits ih =>
      by_cases hc : c = '0'
      · rw [List.dropWhile_cons_of_pos (by simpa using hc), ih, hc, digitsValue_zero_cons]
      · rw [List.dropWhile_cons_of_neg (by simpa using hc)]

variable {digits rest : List Char}

/-- Digits are read as their number. -/
theorem readSize?_append (hdigits : ∀ c ∈ digits, c.isDigit = true)
    (hrest : ∀ c, rest.head? = some c → c.isDigit = false)
    (hlimit : digitsValue digits ≤ sizeLimit) : readSize? (digits ++ rest) =
      some (if digits = [] then none else some (digitsValue digits), rest) := by
  have htake := takeWhile_append_of_head? hdigits hrest
  have hdrop := dropWhile_append_of_head? hdigits hrest
  simp only [readSize?, htake, hdrop]
  by_cases hne : digits = []
  · simp [hne]
  · have hvalue : ofDigits (digits.map fun c => c.toNat - '0'.toNat) ≤ sizeLimit := hlimit
    rw [if_neg (by simpa using hne), if_pos hvalue, if_neg hne]
    rfl

/-- A width is read behind the zero that may stand in front of it. -/
private theorem exists_readMark_zero (hdigits : ∀ c ∈ digits, c.isDigit = true)
    (hrest : ∀ c, rest.head? = some c → c.isDigit = false)
    (hlimit : digitsValue digits ≤ sizeLimit) : ∃ after width,
      readMark '0' (digits ++ rest) = (decide (digits.head? = some '0'), after) ∧
      readSize? after = some (width, rest) ∧ width.getD 0 = digitsValue digits := by
  cases digits with
  | nil =>
      refine ⟨rest, none, ?_, readSize?_append hdigits hrest hlimit, rfl⟩
      cases rest with
      | nil => rfl
      | cons c rest =>
          refine if_neg fun hc => ?_
          have hdigit := hrest c rfl
          rw [hc] at hdigit
          cases hdigit
  | cons c digits =>
      by_cases hzero : c = '0'
      · subst hzero
        have htail := (List.forall_mem_cons.mp hdigits).2
        refine ⟨digits ++ rest, _, rfl, readSize?_append htail hrest hlimit, ?_⟩
        rw [digitsValue_zero_cons]
        by_cases hne : digits = []
        · rw [if_pos hne, hne]
          rfl
        · rw [if_neg hne]
          rfl
      · refine ⟨c :: digits ++ rest, _, ?_, readSize?_append hdigits hrest hlimit, ?_⟩
        · simp [readMark, hzero]
        · rw [if_neg (List.cons_ne_nil c digits)]
          rfl

end Digits

section Parts

variable {text rest : List Char}

theorem Align.ofChar?_of_isDigit {c : Char} (h : c.isDigit = true) : Align.ofChar? c = none := by
  unfold Align.ofChar?
  split <;> first | rfl | cases h

/-- No alignment is read from a text without such a character. -/
private theorem readAlign_of_none (h : ∀ c ∈ text, Align.ofChar? c = none) :
    readAlign text = (none, none, text) := by
  match text with
  | [] => rfl
  | [c] => simp [readAlign, h c]
  | c :: d :: rest => simp [readAlign, h c, h d]

/-- An alignment is read in front of a text without such a character. -/
private theorem readAlign_cons {c : Char} {align : Align} (hc : Align.ofChar? c = some align)
    (h : ∀ d ∈ rest, Align.ofChar? d = none) :
    readAlign (c :: rest) = (none, some align, rest) := by
  cases rest with
  | nil => simp [readAlign, hc]
  | cons d rest => simp [readAlign, hc, h d]

private theorem readSign_of_head? (h : ∀ c, text.head? = some c → c ≠ '+' ∧ c ≠ '-' ∧ c ≠ ' ') :
    readSign text = (none, text) := by
  unfold readSign
  split
  · exact absurd rfl (h _ rfl).1
  · exact absurd rfl (h _ rfl).2.1
  · exact absurd rfl (h _ rfl).2.2
  · rfl

private theorem readMark_of_head? {mark : Char} (h : text.head? ≠ some mark) :
    readMark mark text = (false, text) := by
  cases text with
  | nil => rfl
  | cons c text => exact if_neg fun hc => h (congrArg some hc)

end Parts

/-- A specification as it is written. -/
structure Written where
  /-- The alignment, if there is one. -/
  align : Option Char := none
  /-- The sign or the mark of the alternate form, if there is one of them. -/
  sign : Option Char := none
  /-- The digits of the width. -/
  width : List Char := []
  /-- The digits of the precision, if there is one. -/
  precision : Option (List Char) := none
  /-- The letter of the kind, if there is one. -/
  kind : Option Char := none

namespace Written

/-- The part of a specification behind its width. -/
def afterWidth (w : Written) : List Char :=
  (w.precision.map ('.' :: ·)).getD [] ++ w.kind.toList

/-- The part of a specification behind its alignment and its sign. -/
def afterSign (w : Written) : List Char := w.width ++ w.afterWidth

/-- The text of a specification. -/
def text (w : Written) : List Char := w.align.toList ++ (w.sign.toList ++ w.afterSign)

/-- Every part is one that a specification can have, and the numbers are within the limit. -/
structure WellFormed (w : Written) : Prop where
  align : ∀ c, w.align = some c → c = '<' ∨ c = '>'
  sign : ∀ c, w.sign = some c → c = '+' ∨ c = '#'
  width : ∀ c ∈ w.width, c.isDigit = true
  precision : ∀ p, w.precision = some p → p ≠ [] ∧ ∀ c ∈ p, c.isDigit = true
  kind : ∀ c, w.kind = some c → c = 'd' ∨ c = 'x' ∨ c = 'X'
  width_le : digitsValue w.width ≤ sizeLimit
  precision_le : ∀ p, w.precision = some p → digitsValue p ≤ sizeLimit

/-- What a specification asks for, with its width as it is read. -/
def spec (w : Written) (width : Option Nat) : Spec where
  fill := if w.width.head? = some '0' then '0' else ' '
  align := w.align.bind Align.ofChar?
  sign := if w.sign = some '+' then some '+' else none
  alternate := w.sign = some '#'
  zero := w.width.head? = some '0'
  width := width
  precision := w.precision.map digitsValue
  kind := (w.kind.bind Kind.ofChar?).getD .text

@[simp] theorem width_spec (w : Written) (width : Option Nat) : (w.spec width).width = width := rfl

variable {w : Written}

/-- Behind the width comes a point or the letter of the kind. -/
theorem WellFormed.head?_afterWidth (h : w.WellFormed) {c : Char}
    (hc : w.afterWidth.head? = some c) : c = '.' ∨ c = 'd' ∨ c = 'x' ∨ c = 'X' := by
  cases hp : w.precision with
  | some p =>
      left
      simpa [afterWidth, hp] using hc.symm
  | none =>
      right
      refine h.kind c ?_
      simpa [afterWidth, hp] using hc

/-- The width ends before what is no digit. -/
theorem WellFormed.isDigit_afterWidth (h : w.WellFormed) :
    ∀ c, w.afterWidth.head? = some c → c.isDigit = false := by
  intro c hc
  rcases h.head?_afterWidth hc with rfl | rfl | rfl | rfl <;> rfl

/-- Behind the sign comes a digit, a point or the letter of the kind. -/
theorem WellFormed.mem_afterSign (h : w.WellFormed) {c : Char} (hc : c ∈ w.afterSign) :
    c.isDigit = true ∨ c = '.' ∨ c = 'd' ∨ c = 'x' ∨ c = 'X' := by
  rcases List.mem_append.mp hc with hc | hc
  · exact .inl (h.width c hc)
  · rcases List.mem_append.mp hc with hc | hc
    · cases hp : w.precision with
      | none =>
          rw [hp] at hc
          cases hc
      | some p =>
          rw [hp] at hc
          rcases List.mem_cons.mp hc with rfl | hc
          · exact .inr (.inl rfl)
          · exact .inl ((h.precision p hp).2 c hc)
    · exact .inr (.inr (h.kind c (Option.mem_toList.mp hc)))

/-- An alignment, or none, is read in front of the rest. -/
theorem WellFormed.readAlign (h : w.WellFormed) : readAlign w.text =
    (none, w.align.bind Align.ofChar?, w.sign.toList ++ w.afterSign) := by
  have hrest : ∀ c ∈ w.sign.toList ++ w.afterSign, Align.ofChar? c = none := by
    intro c hc
    rcases List.mem_append.mp hc with hc | hc
    · rcases h.sign c (Option.mem_toList.mp hc) with rfl | rfl <;> rfl
    · rcases h.mem_afterSign hc with hdigit | rfl | rfl | rfl | rfl
      · exact Align.ofChar?_of_isDigit hdigit
      all_goals rfl
  rw [text]
  cases ha : w.align with
  | none => exact readAlign_of_none hrest
  | some c =>
      rcases h.align c ha with rfl | rfl
      · exact readAlign_cons rfl hrest
      · exact readAlign_cons rfl hrest

theorem WellFormed.head?_afterSign (h : w.WellFormed) : ∀ c, w.afterSign.head? = some c →
    c ≠ '+' ∧ c ≠ '-' ∧ c ≠ ' ' ∧ c ≠ '#' := by
  intro c hc
  rcases h.mem_afterSign (List.mem_of_mem_head? hc) with hdigit | rfl | rfl | rfl | rfl
  · refine ⟨?_, ?_, ?_, ?_⟩ <;> rintro rfl <;> cases hdigit
  all_goals decide

/-- A sign or the mark of the alternate form, or none of them, is read in front of the rest. -/
theorem WellFormed.readSign (h : w.WellFormed) : ∃ after,
    readSign (w.sign.toList ++ w.afterSign) =
      (if w.sign = some '+' then some '+' else none, after) ∧
    readMark '#' after = (decide (w.sign = some '#'), w.afterSign) := by
  have hhead := h.head?_afterSign
  have hnone : Format.readSign w.afterSign = (none, w.afterSign) :=
    readSign_of_head? fun c hc => ⟨(hhead c hc).1, (hhead c hc).2.1, (hhead c hc).2.2.1⟩
  have hmark : readMark '#' w.afterSign = (false, w.afterSign) :=
    readMark_of_head? fun hc => (hhead '#' hc).2.2.2 rfl
  cases hs : w.sign with
  | none => exact ⟨w.afterSign, by simpa using hnone, by simpa using hmark⟩
  | some c =>
      rcases h.sign c hs with rfl | rfl
      · exact ⟨w.afterSign, by simp [Format.readSign], by simpa using hmark⟩
      · refine ⟨'#' :: w.afterSign, ?_, by simp [readMark]⟩
        exact readSign_of_head? fun c hc => by
          obtain rfl := Option.some.inj hc
          decide

/-- A precision, or none, is read in front of the letter of the kind. -/
theorem WellFormed.readPrecision? (h : w.WellFormed) :
    readPrecision? w.afterWidth = some (w.precision.map digitsValue, w.kind.toList) := by
  have hkind : ∀ c, w.kind.toList.head? = some c → c = 'd' ∨ c = 'x' ∨ c = 'X' := by
    intro c hc
    exact h.kind c (Option.mem_toList.mp (List.mem_of_mem_head? hc))
  rw [afterWidth]
  cases hp : w.precision with
  | none =>
      rw [Format.readPrecision?]
      · rfl
      · rintro rest hrest
        have hpoint := hkind '.' (by simpa using congrArg List.head? hrest)
        revert hpoint
        decide
  | some p =>
      obtain ⟨hne, hdigits⟩ := h.precision p hp
      have hletter : ∀ c, w.kind.toList.head? = some c → c.isDigit = false := by
        intro c hc
        rcases hkind c hc with rfl | rfl | rfl <;> rfl
      have hsize := readSize?_append hdigits hletter (h.precision_le p hp)
      rw [if_neg hne] at hsize
      simp [Format.readPrecision?, hsize]

theorem WellFormed.readKind? (h : w.WellFormed) :
    readKind? w.kind.toList = some ((w.kind.bind Kind.ofChar?).getD .text) := by
  cases hk : w.kind with
  | none => rfl
  | some c => rcases h.kind c hk with rfl | rfl | rfl <;> rfl

/-- A written specification is read as what it asks for. -/
theorem WellFormed.exists_read? (h : w.WellFormed) : ∃ width,
    Spec.read? w.text = some (w.spec width) ∧ width.getD 0 = digitsValue w.width := by
  obtain ⟨afterMark, hsign, hmark⟩ := h.readSign
  obtain ⟨afterZero, width, hzero, hwidth, hvalue⟩ :=
    exists_readMark_zero h.width h.isDigit_afterWidth h.width_le
  refine ⟨width, ?_, hvalue⟩
  have hzero : readMark '0' w.afterSign = (decide (w.width.head? = some '0'), afterZero) := hzero
  simp only [Spec.read?, h.readAlign, hsign, hmark, hzero, hwidth]
  simp [spec, h.readPrecision?, h.readKind?]

end Written

/-- Without a width nothing is padded. -/
theorem Spec.pad_of_width {spec : Spec} (h : spec.width.getD 0 = 0) (align : Align)
    (lead body : List Char) : spec.pad align lead body = lead ++ body := by
  have hcount (size : Nat) : spec.padding size = 0 := by rw [Spec.padding, h, Nat.zero_sub]
  cases align <;> simp [Spec.pad, hcount]

end Phrasebook.Format
