import Phrasebook.Proofs.Format.Percent
import Phrasebook.Proofs.Template.Formatting

/-!
# Directives and the percent operator

The text of a directive is an order of the percent operator. Its replacement field follows the other
rules, of replacement fields: there a text stands at the left unless the specification says
otherwise, and no flag is ignored. Yet it shows every integer and every text as the operator does.
The two are compared part by part: what the operator reads from the directive, what is read from the
specification of its field, the padding on both sides, and then the values.
-/

namespace Phrasebook

open Number Text Format

theorem Conversion.fieldLetter_of_isInteger {conversion : Conversion}
    (h : conversion.isInteger = true) : conversion.fieldLetter = 'd' ∨
      conversion.fieldLetter = 'x' ∨ conversion.fieldLetter = 'X' := by
  revert h
  cases conversion <;> decide

theorem Conversion.isText_of_isInteger {conversion : Conversion} (h : conversion.isInteger = true) :
    conversion.isText = false := by
  revert h
  cases conversion <;> decide

/-- A text is shown as the specification says, also where there is none. -/
theorem Format.Field.show_text (field : Field) (s : String) :
    field.show (.text s) = Format.showValue field.spec (.text s) := by
  rw [Field.show]
  split
  · rename_i hempty
    rw [List.isEmpty_iff.mp hempty]
    simp [Value.display, Format.showValue, Spec.read?, readAlign, readSign, readMark, readSize?,
      readPrecision?, readKind?, Spec.showText, Spec.pad, Spec.padding]
  · simp [Value.display, bind, Except.bind]

namespace Directive

open Percent

variable {d : Directive}

/-- The digits of the width. -/
def widthDigits (d : Directive) : List Char := (d.width.getD "").toList

/-- The digits of the precision, if there is one. -/
def precisionDigits (d : Directive) : Option (List Char) := d.precision.map String.toList

/-- A directive whose width and precision are less than a limit. -/
structure Below (d : Directive) (limit : Nat) : Prop where
  width : digitsValue d.widthDigits < limit
  precision : ∀ p, d.precisionDigits = some p → digitsValue p < limit

/-- The text of a directive as an order, in which the second letter for texts is the first one. -/
def order (d : Directive) : String :=
  source { d with conversion := if d.conversion = .object then .string else d.conversion }

theorem WellFormed.widthDigits (hd : d.WellFormed) : ∀ c ∈ d.widthDigits, c.isDigit = true := by
  rw [Directive.widthDigits]
  cases hw : d.width with
  | none => exact nofun
  | some w => exact (hd.width w hw).2

theorem WellFormed.precisionDigits (hd : d.WellFormed) {p : List Char}
    (hp : d.precisionDigits = some p) : p ≠ [] ∧ ∀ c ∈ p, c.isDigit = true := by
  obtain ⟨digits, hdigits, rfl⟩ := Option.map_eq_some_iff.mp hp
  obtain ⟨hne, hchars⟩ := hd.precision digits hdigits
  exact ⟨by simpa using hne, hchars⟩

section Orders

/-- The flags that stand in front of the width. -/
def markFlags (d : Directive) : Flags where
  left := d.flag = some "-"
  plus := d.flag = some "+"
  alternate := d.flag = some "#"

/-- What the text of a directive orders. -/
def ordered (d : Directive) : Order where
  flags := { d.markFlags with zero := d.widthDigits.head? = some '0' }
  width := digitsValue d.widthDigits
  precision := d.precisionDigits.map digitsValue
  letter := d.conversion.letter

theorem readFlags_flag (hd : d.WellFormed) (rest : List Char) :
    readFlags {} ((d.flag.getD "").toList ++ rest) = readFlags d.markFlags rest := by
  cases hf : d.flag with
  | none => simp [markFlags, hf]
  | some f =>
      rcases hd.flag f hf with rfl | rfl | rfl <;> simp [markFlags, hf, readFlags, Flags.add?]

/-- No flag stands behind the width. -/
private theorem add?_afterWidth {c : Char} (h : (d.afterWidth []).head? = some c) (flags : Flags) :
    flags.add? c = none := by
  refine Flags.add?_eq_none ?_
  rcases head?_afterWidth h with rfl | rfl
  · decide
  · cases d.conversion <;> decide

theorem isDigit_afterWidth {c : Char} (h : (d.afterWidth []).head? = some c) :
    c.isDigit = false := by
  rcases head?_afterWidth h with rfl | rfl
  · rfl
  · exact (letter_starts_nothing d.conversion).1

private theorem readPrecision_ordered (hd : d.WellFormed) :
    Percent.readPrecision (d.afterWidth []) =
    (d.precisionDigits.map digitsValue, [d.conversion.letter]) := by
  obtain ⟨hdigit, hpoint, -⟩ := letter_starts_nothing d.conversion
  cases hp : d.precision with
  | none =>
      simp only [afterWidth, precisionText, hp, precisionDigits, String.toList_empty,
        List.nil_append]
      rw [Percent.readPrecision]
      · rfl
      · rintro rest he
        exact hpoint (List.cons.inj he).1
  | some p =>
      have hread : readNumber (p.toList ++ [d.conversion.letter]) =
          (digitsValue p.toList, [d.conversion.letter]) := by
        refine readNumber_append (hd.precision p hp).2 fun c hc => ?_
        obtain rfl := Option.some.inj hc
        exact hdigit
      simp [afterWidth, precisionText, hp, precisionDigits, Percent.readPrecision, hread]

/-- The text of a directive is read as what it orders. -/
theorem read?_source (hd : d.WellFormed) (hsize : d.Below (2 ^ 31)) :
    Order.read? d.source.toList = some d.ordered := by
  have hsource : d.source.toList = '%' :: ((d.flag.getD "").toList ++ d.afterFlag []) := by
    simpa using d.toList_source_append []
  have hflags : readFlags {} ((d.flag.getD "").toList ++ d.afterFlag []) =
      (d.ordered.flags, d.widthDigits.dropWhile (· = '0') ++ d.afterWidth []) := by
    rw [readFlags_flag hd]
    exact readFlags_digits d.markFlags hd.widthDigits fun c hc => add?_afterWidth hc
  have hwidth : readNumber (d.widthDigits.dropWhile (· = '0') ++ d.afterWidth []) =
      (digitsValue d.widthDigits, d.afterWidth []) := by
    rw [← digitsValue_dropWhile d.widthDigits]
    refine readNumber_append (fun c hc => ?_) fun c hc => isDigit_afterWidth hc
    exact hd.widthDigits c ((List.dropWhile_sublist _).mem hc)
  have hwidth_le : digitsValue d.widthDigits ≤ widthLimit := by
    have hlimit : 2 ^ 31 ≤ widthLimit := by decide
    exact hsize.width.le.trans hlimit
  have hprecision_le : (d.precisionDigits.map digitsValue).getD 0 ≤ precisionLimit := by
    have hlimit : 2 ^ 31 = precisionLimit + 1 := by decide
    cases hp : d.precisionDigits with
    | none => exact Nat.zero_le _
    | some p => exact Nat.le_of_lt_succ ((hsize.precision p hp).trans_eq hlimit)
  rw [hsource]
  simp only [Order.read?, hflags, hwidth, readPrecision_ordered hd]
  rw [if_pos ⟨hwidth_le, hprecision_le⟩]
  rfl

/-- The directive as an order is read as what it orders, but for the letter. -/
theorem read?_order (hd : d.WellFormed) (hsize : d.Below (2 ^ 31)) :
    Order.read? d.order.toList = some { d.ordered with
      letter := (if d.conversion = .object then .string else d.conversion : Conversion).letter } :=
  read?_source ⟨hd.flag, hd.width, hd.precision⟩ ⟨hsize.width, hsize.precision⟩

end Orders

section Fields

/-- The specification of the replacement field of a directive, part by part. -/
def written (d : Directive) : Written where
  align :=
    if d.fieldWidth = "" then none
    else if d.flag = some "-" then some '<'
    else if d.conversion.isText then some '>'
    else none
  sign :=
    if d.conversion.isText then none
    else if d.flag = some "+" then some '+'
    else if d.flag = some "#" then some '#'
    else none
  width := d.fieldWidth.toList
  precision := d.precisionDigits
  kind := if d.conversion.isText then none else some d.conversion.fieldLetter

theorem toList_fieldAlign (d : Directive) : d.fieldAlign.toList = d.written.align.toList := by
  simp only [fieldAlign, written]
  split_ifs <;> rfl

theorem toList_fieldSign (htext : d.conversion.isText = false) :
    d.fieldSign.toList = d.written.sign.toList := by
  simp only [fieldSign, written, htext]
  by_cases hplus : d.flag = some "+"
  · simp [hplus]
  · by_cases hhash : d.flag = some "#"
    · simp [hhash]
    · simp [hplus, hhash]

theorem toList_precisionText (d : Directive) :
    d.precisionText.toList = (d.precisionDigits.map ('.' :: ·)).getD [] := by
  cases hp : d.precision <;> simp [precisionText, precisionDigits, hp]

/-- The specification of a directive is written part by part. -/
theorem toList_fieldSpec (d : Directive) : d.fieldSpec.toList = d.written.text := by
  have halign := d.toList_fieldAlign
  have hpoint := d.toList_precisionText
  rw [fieldSpec]
  by_cases htext : d.conversion.isText = true
  · simp [htext, Written.text, Written.afterSign, Written.afterWidth, halign, hpoint, written]
  · have hsign := toList_fieldSign (Bool.not_eq_true _ ▸ htext)
    simp [htext, Written.text, Written.afterSign, Written.afterWidth, halign, hpoint, hsign,
      written]

/-- The zeros in front of a width do not count. -/
theorem digitsValue_fieldWidth (d : Directive) :
    digitsValue d.fieldWidth.toList = digitsValue d.widthDigits := by
  rw [fieldWidth]
  split
  · rw [dropZeros, String.toList_ofList, digitsValue_dropWhile]
    rfl
  · rfl

theorem isDigit_fieldWidth (hd : d.WellFormed) : ∀ c ∈ d.fieldWidth.toList, c.isDigit = true := by
  rw [fieldWidth]
  split
  · rw [dropZeros, String.toList_ofList]
    exact fun c hc => hd.widthDigits c ((List.dropWhile_sublist _).mem hc)
  · exact hd.widthDigits

theorem wellFormed_written (hd : d.WellFormed) (hsize : d.Below (2 ^ 31))
    (hkind : d.conversion.isInteger = true ∨ d.conversion.isText = true) :
    d.written.WellFormed where
  align c hc := by
    simp only [written] at hc
    split_ifs at hc
    · exact .inl (Option.some.inj hc).symm
    · exact .inr (Option.some.inj hc).symm
  sign c hc := by
    simp only [written] at hc
    split_ifs at hc
    · exact .inl (Option.some.inj hc).symm
    · exact .inr (Option.some.inj hc).symm
  width := isDigit_fieldWidth hd
  precision p hp := hd.precisionDigits hp
  kind c hc := by
    simp only [written] at hc
    split_ifs at hc with htext
    obtain rfl := Option.some.inj hc
    exact Conversion.fieldLetter_of_isInteger (hkind.resolve_right htext)
  width_le := by
    have hlimit : 2 ^ 31 ≤ sizeLimit := by decide
    exact (d.digitsValue_fieldWidth.trans_lt hsize.width).le.trans hlimit
  precision_le p hp := by
    have hlimit : 2 ^ 31 ≤ sizeLimit := by decide
    exact (hsize.precision p hp).le.trans hlimit

/-- The specification of a directive is read as it is written. -/
theorem exists_read?_fieldSpec (hd : d.WellFormed) (hsize : d.Below (2 ^ 31))
    (hkind : d.conversion.isInteger = true ∨ d.conversion.isText = true) : ∃ width,
    Spec.read? d.fieldSpec.toList = some (d.written.spec width) ∧
      width.getD 0 = d.ordered.width := by
  obtain ⟨width, hread, hwidth⟩ := (wellFormed_written hd hsize hkind).exists_read?
  exact ⟨width, d.toList_fieldSpec ▸ hread, hwidth.trans d.digitsValue_fieldWidth⟩

end Fields

section Padding

variable {width : Option Nat}

/-- No zero stands at the start of a width without its leading zeros. -/
private theorem head?_dropZeros (width : String) : (dropZeros width).toList.head? ≠ some '0' := by
  rw [dropZeros, String.toList_ofList]
  intro h
  have hnot := List.head?_dropWhile_not (fun c : Char => decide (c = '0')) width.toList
  rw [h] at hnot
  cases hnot

/-- Where there is no width, the alignment does not matter. -/
theorem pad_align (hwidth : width.getD 0 = d.ordered.width) {align : Align}
    (halign : d.fieldWidth ≠ "" → (d.written.spec width).align = some align) (other : Align)
    (lead body : List Char) :
    (d.written.spec width).pad ((d.written.spec width).align.getD other) lead body =
      (d.written.spec width).pad align lead body := by
  by_cases hempty : d.fieldWidth = ""
  · have hzero : width.getD 0 = 0 := by
      rw [hwidth, ordered, ← digitsValue_fieldWidth, hempty]
      rfl
    rw [Spec.pad_of_width hzero, Spec.pad_of_width hzero]
  · rw [halign hempty, Option.getD_some]

/-- Blanks fill a field whose width has lost its leading zeros. -/
theorem fill_of_dropZeros (h : d.flag = some "-" ∨ d.conversion.isText = true) :
    (d.written.spec width).fill = ' ' := by
  have hfield : d.fieldWidth = dropZeros (d.width.getD "") := if_pos h
  refine if_neg ?_
  rw [written, hfield]
  exact head?_dropZeros _

/-- A value that stands at the left of its field is padded as the operator does. -/
theorem pad_left (hleft : d.flag = some "-") (hwidth : width.getD 0 = d.ordered.width)
    (zeros : Bool) (other : Align) (lead body : List Char) :
    (d.written.spec width).pad ((d.written.spec width).align.getD other) lead body =
      d.ordered.place zeros lead body := by
  have halign (hne : d.fieldWidth ≠ "") : (d.written.spec width).align = some .left := by
    simp [Written.spec, written, hne, hleft, Align.ofChar?]
  have hflag : d.ordered.flags.left = true := decide_eq_true hleft
  rw [pad_align hwidth halign]
  simp only [Spec.pad, Spec.padding, fill_of_dropZeros (.inl hleft), Written.width_spec,
    hwidth, Order.place, hflag]
  rfl

/-- A number that does not stand at the left is padded as the operator does. -/
theorem pad_number (hleft : d.flag ≠ some "-") (htext : d.conversion.isText = false)
    (hwidth : width.getD 0 = d.ordered.width) (lead body : List Char) :
    (d.written.spec width).pad ((d.written.spec width).align.getD
        (if (d.written.spec width).zero then .afterSign else .right)) lead body =
      d.ordered.place d.ordered.flags.zero lead body := by
  have hfield : d.fieldWidth.toList = d.widthDigits := by
    simp [fieldWidth, hleft, htext, widthDigits]
  have halign : (d.written.spec width).align = none := by
    simp [Written.spec, written, hleft, htext]
  have hflag : d.ordered.flags.left = false := decide_eq_false hleft
  have hzero : (d.written.spec width).zero = d.ordered.flags.zero := by
    simp only [Written.spec, written, hfield, ordered]
  have hfill : (d.written.spec width).fill = if d.ordered.flags.zero then '0' else ' ' := by
    simp only [Written.spec, written, hfield, ordered, decide_eq_true_eq]
  rw [halign, Option.getD_none, hzero]
  cases hz : d.ordered.flags.zero with
  | true => simp [Spec.pad, Spec.padding, hfill, hz, hwidth, Order.place, hflag]
  | false => simp [Spec.pad, Spec.padding, hfill, hz, hwidth, Order.place, hflag]

/-- A text that does not stand at the left is padded as the operator does. -/
theorem pad_text (hleft : d.flag ≠ some "-") (htext : d.conversion.isText = true)
    (hwidth : width.getD 0 = d.ordered.width) (other : Align) (body : List Char) :
    (d.written.spec width).pad ((d.written.spec width).align.getD other) [] body =
      d.ordered.place false [] body := by
  have halign (hne : d.fieldWidth ≠ "") : (d.written.spec width).align = some .right := by
    simp [Written.spec, written, hne, hleft, htext, Align.ofChar?]
  have hflag : d.ordered.flags.left = false := decide_eq_false hleft
  rw [pad_align hwidth halign]
  simp only [Spec.pad, Spec.padding, fill_of_dropZeros (.inr htext), Written.width_spec,
    hwidth, Order.place, hflag]
  rfl

end Padding

section Shown

variable {width : Option Nat}

/-- The sign of a number is the one that the operator shows. -/
theorem signText_eq_sign (htext : d.conversion.isText = false) (negative : Bool) :
    (d.written.spec width).signText negative = d.ordered.flags.sign negative := by
  have hsign : (d.written.spec width).sign = if d.flag = some "+" then some '+' else none := by
    by_cases hplus : d.flag = some "+"
    · simp [Written.spec, written, htext, hplus]
    · by_cases hhash : d.flag = some "#" <;> simp [Written.spec, written, htext, hplus, hhash]
  rw [Spec.signText, hsign, Flags.sign]
  by_cases hplus : d.flag = some "+" <;> simp [ordered, markFlags, hplus]

/-- A number is shown in its field as the operator does. -/
theorem showNumber_eq_place (htext : d.conversion.isText = false)
    (hwidth : width.getD 0 = d.ordered.width) (negative : Bool) (mark body : List Char) :
    (d.written.spec width).showNumber negative mark body =
      d.ordered.place d.ordered.flags.zero (d.ordered.flags.sign negative ++ mark) body := by
  rw [Spec.showNumber, signText_eq_sign htext]
  by_cases hleft : d.flag = some "-"
  · exact pad_left hleft hwidth _ _ _ _
  · exact pad_number hleft htext hwidth _ _

/-- A text is shown in its field as the operator does. -/
theorem showText_eq_place (htext : d.conversion.isText = true)
    (hwidth : width.getD 0 = d.ordered.width) (text : List Char) :
    (d.written.spec width).showText text =
      .ok (d.ordered.place false [] ((d.ordered.precision.map text.take).getD text)) := by
  have hprecision : (d.written.spec width).precision = d.ordered.precision := rfl
  have hkind : (d.written.spec width).kind = .text := by simp [Written.spec, written, htext]
  have hsign : (d.written.spec width).sign = none := by simp [Written.spec, written, htext]
  have halternate : (d.written.spec width).alternate = false := by
    simp [Written.spec, written, htext]
  have halign : (d.written.spec width).align ≠ some .afterSign := by
    simp only [Written.spec, written, htext]
    split_ifs <;> decide
  rw [Spec.showText, if_neg (by simp [hkind, hsign, halternate, halign]), hprecision]
  refine congrArg Except.ok ?_
  by_cases hleft : d.flag = some "-"
  · exact pad_left hleft hwidth _ _ _ _
  · exact pad_text hleft htext hwidth _ _

/-- The digits of an integer and the mark of their base are those that the operator shows. -/
theorem exists_digits? (hkind : d.conversion.isInteger = true) (hprecision : d.precision = none)
    {n : Int} (hn : (toString n.natAbs).length ≤ 4300) :
    ∃ mark digits, d.ordered.digits? n.natAbs = some (mark, digits) ∧
      (d.written.spec width).showInt n =
        .ok ((d.written.spec width).showNumber (n < 0) mark digits) := by
  have hnone : (d.written.spec width).precision.isSome = false := by
    simp [Written.spec, written, precisionDigits, hprecision]
  have htext := Conversion.isText_of_isInteger hkind
  have hspec : (d.written.spec width).kind =
      (Kind.ofChar? d.conversion.fieldLetter).getD .text := by
    simp [Written.spec, written, htext]
  have halternate : (d.written.spec width).alternate = d.ordered.flags.alternate := by
    by_cases hplus : d.flag = some "+" <;>
      simp [Written.spec, written, htext, ordered, markFlags, hplus]
  have hletter : d.ordered.letter = d.conversion.letter := rfl
  cases hc : d.conversion with
  | decimal | integer =>
      rw [hc] at hspec hletter
      have hdecimal : (d.written.spec width).kind = .decimal := hspec
      refine ⟨[], (toString n.natAbs).toList, ?_, ?_⟩
      · rw [Order.digits?, hletter]
        exact if_pos hn
      · simp [Spec.showInt, hdecimal, hnone, decimal?_of_length hn]
  | hexLower =>
      rw [hc] at hspec hletter
      have hhex : (d.written.spec width).kind = .hexadecimal false := hspec
      refine ⟨if d.ordered.flags.alternate then ['0', 'x'] else [], hexadecimal n.natAbs, ?_, ?_⟩
      · simp only [Order.digits?, hletter, Conversion.letter]
        rfl
      · cases ha : d.ordered.flags.alternate <;>
          simp [Spec.showInt, hhex, hnone, Spec.integerDigits, halternate, ha]
  | hexUpper =>
      rw [hc] at hspec hletter
      have hhex : (d.written.spec width).kind = .hexadecimal true := hspec
      refine ⟨if d.ordered.flags.alternate then ['0', 'X'] else [],
        (hexadecimal n.natAbs).map Char.toUpper, ?_, ?_⟩
      · cases ha : d.ordered.flags.alternate <;>
          simp only [Order.digits?, hletter, Conversion.letter, ha] <;> rfl
      · cases ha : d.ordered.flags.alternate <;>
          simp [Spec.showInt, hhex, hnone, Spec.integerDigits, halternate, ha]
  | string | object | float =>
      rw [hc] at hkind
      cases hkind

/-- An integer without a precision is shown by its specification as the operator does. -/
theorem exists_showInt (hkind : d.conversion.isInteger = true) (hprecision : d.precision = none)
    (hwidth : width.getD 0 = d.ordered.width) {n : Int}
    (hn : (toString n.natAbs).length ≤ 4300) : ∃ shown, d.ordered.showInt? n = some shown ∧
      (d.written.spec width).showInt n = .ok shown := by
  have htext := Conversion.isText_of_isInteger hkind
  obtain ⟨mark, digits, hdigits, hshow⟩ := exists_digits? hkind hprecision hn
  have hpad : digits.leftpad (d.ordered.precision.getD 0) '0' = digits := by
    simp [ordered, precisionDigits, hprecision]
  refine ⟨_, ?_, hshow⟩
  rw [Order.showInt?, hdigits, showNumber_eq_place htext hwidth]
  simp only [Option.bind_eq_bind, Option.bind_some, hpad]
  rfl

end Shown

section Rendering

/-- A replacement field alone shows its value. -/
theorem render_formatField (hd : d.WellFormed) (value : Value) :
    render d.formatField [value] = String.ofList <$> d.field.show value := by
  obtain ⟨inside, hinside, hread, htext⟩ := exists_formatField hd
  have hpieces : pieces? d.formatField = some [.field d.field] := by
    rw [pieces?, htext, piecesFrom_field hinside hread]
    rfl
  simp only [render, hpieces, renderPieces]
  cases d.field.show value with
  | error e => rfl
  | ok shown => simp [bind, Except.bind, pure, Except.pure, Functor.map, Except.map]

/-- An integer in the replacement field of a directive is shown as the operator does. -/
theorem exists_render_int (hd : d.WellFormed) (hsize : d.Below (2 ^ 31))
    (hkind : d.conversion.isInteger = true) (hprecision : d.precision = none) {n : Int}
    (hn : (toString n.natAbs).length ≤ 4300) : ∃ shown, Percent.showInt? d.order n = some shown ∧
      render d.formatField [.int n] = .ok (String.ofList shown) := by
  obtain ⟨width, hread, hwidth⟩ := exists_read?_fieldSpec hd hsize (.inl hkind)
  obtain ⟨shown, hordered, hshown⟩ := exists_showInt hkind hprecision hwidth hn
  have hletter : d.conversion ≠ .string ∧ d.conversion ≠ .object := by
    revert hkind
    cases d.conversion <;> decide
  refine ⟨shown, ?_, ?_⟩
  · rw [Percent.showInt?, read?_order hd hsize, if_neg hletter.2]
    exact hordered
  · have hne : d.fieldSpec.toList ≠ [] := by
      simp [fieldSpec, Conversion.isText_of_isInteger hkind, Char.toString]
    have hasText : d.field.asText = false := by simp [field, hletter]
    have hshow : d.field.show (.int n) = .ok shown := by
      rw [Field.show, if_neg (by simpa [field] using hne), hasText]
      simp only [Format.showValue, field, hread, hshown]
      rfl
    rw [render_formatField hd, hshow]
    rfl

/-- A text in the replacement field of a directive is shown as the operator does. -/
theorem exists_render_text (hd : d.WellFormed) (hsize : d.Below (2 ^ 31))
    (hkind : d.conversion.isText = true) (s : String) :
    ∃ shown, Percent.showText? d.order s.toList = some shown ∧
      render d.formatField [.text s] = .ok (String.ofList shown) := by
  obtain ⟨width, hread, hwidth⟩ := exists_read?_fieldSpec hd hsize (.inr hkind)
  have hshown := showText_eq_place hkind hwidth s.toList
  refine ⟨d.ordered.place false [] ((d.ordered.precision.map s.toList.take).getD s.toList), ?_, ?_⟩
  · have hletter : (if d.conversion = .object then .string else d.conversion : Conversion) =
        .string := by
      revert hkind
      cases d.conversion <;> decide
    rw [Percent.showText?, read?_order hd hsize, hletter]
    rfl
  · have hshow : d.field.show (.text s) = (d.written.spec width).showText s.toList := by
      rw [Field.show_text, Format.showValue, field]
      simp only [hread]
    rw [render_formatField hd, hshow, hshown]
    rfl

end Rendering

end Directive

/-- The replacement field of a directive of a template shows every integer, or every text, as the
percent operator shows it by the text of the directive. -/
theorem Template.fields_show_as_percent {text : String} {t : Template} (h : parse text = .ok t)
    {d : Directive} (hd : d ∈ t.directives) (hsize : d.Below (2 ^ 31)) :
    (d.conversion.isInteger = true → ∀ n : Int, (toString n.natAbs).length ≤ 4300 →
      ∃ shown, Percent.showInt? d.order n = some shown ∧
        render d.formatField [.int n] = .ok (String.ofList shown)) ∧
    (d.conversion.isText = true → ∀ s : String,
      ∃ shown, Percent.showText? d.order s.toList = some shown ∧
        render d.formatField [.text s] = .ok (String.ofList shown)) := by
  obtain ⟨hformed, haccepted⟩ := accepted_of_parse h d hd
  refine ⟨fun hkind n hn => ?_, fun hkind s => Directive.exists_render_text hformed hsize hkind s⟩
  have hprecision : d.precision = none := by
    rw [refused_iff, hkind, Bool.true_and] at haccepted
    simpa using haccepted
  exact Directive.exists_render_int hformed hsize hkind hprecision hn

/-- Zeros between a sign with the mark of the base and the digits, and a cut text at the left of a
field with zeros in its width. -/
theorem Template.fields_show_as_percent_padded : ∃ t, parse "%#09X is %-05.2@" = .ok t ∧
    (∃ d ∈ t.directives, d.Below (2 ^ 31) ∧ d.conversion.isInteger = true ∧
      render d.formatField [.int (-255)] = .ok "-0X0000FF") ∧
    ∃ d ∈ t.directives, d.Below (2 ^ 31) ∧ d.conversion.isText = true ∧
      render d.formatField [.text "red"] = .ok "re   " := by
  have hparse : parse "%#09X is %-05.2@" = .ok ⟨[.directive ⟨.hexUpper, some "#", some "09", none⟩,
      .literal " is " " is ", .directive ⟨.object, some "-", some "05", some "2"⟩]⟩ :=
    toOption_eq_some_iff.mp (by decide +kernel)
  have hnumber : Directive.Below ⟨.hexUpper, some "#", some "09", none⟩ (2 ^ 31) :=
    ⟨by decide, nofun⟩
  have htext : Directive.Below ⟨.object, some "-", some "05", some "2"⟩ (2 ^ 31) := by
    refine ⟨by decide, ?_⟩
    rintro p ⟨⟩
    decide
  refine ⟨_, hparse, ⟨_, List.mem_cons_self, hnumber, rfl, ?_⟩,
    ⟨_, List.mem_cons_of_mem _ List.mem_cons_self, htext, rfl, ?_⟩⟩
  · obtain ⟨shown, hpercent, hrender⟩ :=
      (fields_show_as_percent hparse List.mem_cons_self hnumber).1 rfl (-255) (by decide +kernel)
    have hshown : Percent.showInt? "%#09X" (-255) = some "-0X0000FF".toList := by decide +kernel
    obtain rfl := Option.some.inj (hpercent.symm.trans hshown)
    exact hrender
  · obtain ⟨shown, hpercent, hrender⟩ := (fields_show_as_percent hparse
      (List.mem_cons_of_mem _ List.mem_cons_self) htext).2 rfl "red"
    have hshown : Percent.showText? "%-05.2s" "red".toList = some "re   ".toList := by
      decide +kernel
    obtain rfl := Option.some.inj (hpercent.symm.trans hshown)
    exact hrender

end Phrasebook
