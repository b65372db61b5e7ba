import Phrasebook.Proofs.Template.Segmentation

/-!
# Rendering templates

The format string of a template is read as the template itself: one replacement field for each
directive, in order, and between them the characters that the literal runs show. So a template is
rendered by turning the values of the directives that take an integer into one, showing each value
as the field of its directive does, and putting the texts between the literal runs. The first
failure of these steps is the failure of the whole.
-/

namespace Phrasebook

/-- The field of a piece, if it is one. -/
def Format.Piece.field? : Format.Piece → Option Format.Field
  | .char _ => none
  | .field f => some f

namespace Directive

/-- The replacement field of a directive. Both letters for texts turn the value into one first, but
the second does not say so where there is no specification. -/
def field (d : Directive) : Format.Field where
  asText := d.conversion = .string ∨ (d.conversion = .object ∧ d.fieldSpec ≠ "")
  spec := d.fieldSpec.toList

/-- The value that is passed to the field of a directive. -/
def convert : Directive × Value → Except RenderError Value
  | (d, value) => if d.conversion.truncates then value.truncate else .ok value

/-- The text of a value in the field of a directive. -/
def showValue : Directive × Value → Except RenderError (List Char)
  | (d, value) => d.field.show value

end Directive

/-- The pieces of a format string that a part of a template stands for. -/
def Segment.pieces : Segment → List Format.Piece
  | .literal _ value => value.toList.map .char
  | .directive d => [.field d.field]

/-- The parts of a template one after another, with a text for each directive. -/
def Template.fill : List Segment → List (List Char) → List Char
  | .literal _ value :: rest, shown => value.toList ++ fill rest shown
  | .directive _ :: rest, text :: shown => text ++ fill rest shown
  | _, _ => []

/-- A text without braces. -/
def Format.Unbraced (text : List Char) : Prop := ∀ c ∈ text, c ≠ '{' ∧ c ≠ '}'

instance (text : List Char) : Decidable (Format.Unbraced text) :=
  List.decidableBAll (fun c => c ≠ '{' ∧ c ≠ '}') text

namespace Format

variable {text text' inside rest : List Char}

theorem unbraced_nil : Unbraced [] := nofun

theorem unbraced_append : Unbraced (text ++ text') ↔ Unbraced text ∧ Unbraced text' :=
  List.forall_mem_append

/-- Inside a field everything up to the closing brace is its text. -/
private theorem piecesFrom_inside (h : Unbraced inside) (taken rest : List Char) :
    piecesFrom (some taken) (inside ++ '}' :: rest) = (do
      let field ← Field.read? (taken.reverse ++ inside)
      return .field field :: (← piecesFrom none rest)) := by
  induction inside generalizing taken with
  | nil => simp [piecesFrom]
  | cons c inside ih =>
      obtain ⟨⟨hopen, hclose⟩, hinside⟩ := List.forall_mem_cons.mp h
      rw [List.cons_append, piecesFrom, if_neg hclose, if_neg hopen, ih hinside]
      simp

/-- A field is read where its text stands between braces, whatever follows it. -/
theorem piecesFrom_field {field : Field} (h : Unbraced inside)
    (hfield : Field.read? inside = some field) (rest : List Char) :
    piecesFrom none ('{' :: (inside ++ '}' :: rest)) =
      (piecesFrom none rest).map (.field field :: ·) := by
  have hopen : piecesFrom none ('{' :: (inside ++ '}' :: rest)) =
      piecesFrom (some []) (inside ++ '}' :: rest) := by
    cases inside with
    | nil => simp [piecesFrom]
    | cons c inside =>
        have hc := (List.forall_mem_cons.mp h).1.1
        rw [List.cons_append, piecesFrom]
        · rfl
        · rintro _ - he
          exact hc (List.cons.inj he).1
        · intro _ he
          exact absurd he (by decide)
  rw [hopen, piecesFrom_inside h, List.reverse_nil, List.nil_append, hfield]
  cases piecesFrom none rest <;> rfl

/-- Characters in front of pieces are rendered as they are. -/
private theorem renderPieces_chars_append (text : List Char) (pieces : List Piece)
    (values : List Value) :
    renderPieces (text.map Piece.char ++ pieces) values =
      (text ++ ·) <$> renderPieces pieces values := by
  induction text with
  | nil => exact (id_map _).symm
  | cons c text ih =>
      rw [List.map_cons, List.cons_append, renderPieces, ih, ← comp_map]
      rfl

end Format

namespace Directive

open Format

variable {d : Directive}

theorem IsDigits.unbraced {digits : String} (h : IsDigits digits) : Unbraced digits.toList := by
  intro c hc
  have hdigit := h.2 c hc
  constructor
  · rintro rfl
    cases hdigit
  · rintro rfl
    cases hdigit

theorem unbraced_precisionText (hd : d.WellFormed) : Unbraced d.precisionText.toList := by
  cases hp : d.precision with
  | none => simp [precisionText, hp, unbraced_nil]
  | some p =>
      rw [precisionText, hp, String.toList_append, unbraced_append]
      exact ⟨by decide, (hd.precision p hp).unbraced⟩

theorem unbraced_fieldWidth (hd : d.WellFormed) : Unbraced d.fieldWidth.toList := by
  have hwidth : Unbraced (d.width.getD "").toList := by
    cases hw : d.width with
    | none => exact unbraced_nil
    | some w => exact (hd.width w hw).unbraced
  rw [fieldWidth]
  split
  · rw [dropZeros, String.toList_ofList]
    exact fun c hc => hwidth c ((List.dropWhile_sublist _).mem hc)
  · exact hwidth

theorem unbraced_fieldAlign (d : Directive) : Unbraced d.fieldAlign.toList := by
  unfold fieldAlign
  repeat' split
  all_goals decide

theorem unbraced_fieldSign (d : Directive) : Unbraced d.fieldSign.toList := by
  rw [fieldSign]
  split
  · rename_i h
    rcases h with h | h <;> rw [h] <;> decide
  · exact unbraced_nil

/-- The specification of a well-formed directive has no braces. -/
theorem unbraced_fieldSpec (hd : d.WellFormed) : Unbraced d.fieldSpec.toList := by
  have hletter : Unbraced [d.conversion.fieldLetter] := by
    cases d.conversion <;> decide
  rw [fieldSpec]
  split
  · simp only [String.toList_append, unbraced_append]
    exact ⟨⟨unbraced_fieldAlign d, unbraced_fieldWidth hd⟩, unbraced_precisionText hd⟩
  · simp only [String.toList_append, unbraced_append, Char.toString, String.toList_singleton]
    exact ⟨⟨⟨⟨unbraced_fieldAlign d, unbraced_fieldSign d⟩, unbraced_fieldWidth hd⟩,
      unbraced_precisionText hd⟩, hletter⟩

/-- The replacement field of a directive is written between braces. -/
theorem exists_formatField (hd : d.WellFormed) : ∃ inside, Unbraced inside ∧
    Field.read? inside = some d.field ∧ d.formatField.toList = '{' :: (inside ++ ['}']) := by
  have hspec := unbraced_fieldSpec hd
  by_cases htext : d.conversion.isText = true
  · have hletter : d.conversion = .string ∨ d.conversion = .object := by
      revert htext
      cases d.conversion <;> decide
    by_cases hempty : d.fieldSpec = ""
    · rcases hletter with hletter | hletter
      · refine ⟨['!', 's'], by decide, ?_, ?_⟩
        · simp [Field.read?, field, hletter, hempty]
        · simp [formatField, Conversion.isText, hletter, hempty]
      · refine ⟨[], unbraced_nil, ?_, ?_⟩
        · simp [Field.read?, field, hletter, hempty]
        · simp [formatField, Conversion.isText, hletter, hempty]
    · refine ⟨['!', 's', ':'] ++ d.fieldSpec.toList, ?_, ?_, ?_⟩
      · exact unbraced_append.mpr ⟨by decide, hspec⟩
      · simp [Field.read?, field, hletter, hempty]
      · simp [formatField, htext, hempty]
  · have hletter : ¬ (d.conversion = .string ∨ d.conversion = .object) := by
      revert htext
      cases d.conversion <;> decide
    refine ⟨[':'] ++ d.fieldSpec.toList, ?_, ?_, ?_⟩
    · exact unbraced_append.mpr ⟨by decide, hspec⟩
    · simp [Field.read?, field, not_or.mp hletter]
    · simp [formatField, htext]

end Directive

namespace Template

open Format

variable {segments : List Segment} {values : List Value}

/-- The format string of parts is read as the pieces that the parts stand for. -/
private theorem piecesFrom_formatText
    (h : ∀ d ∈ segments.filterMap Segment.directive?, d.WellFormed) :
    piecesFrom none (segments.flatMap (·.formatText.toList)) =
      some (segments.flatMap Segment.pieces) := by
  induction segments with
  | nil => rfl
  | cons segment rest ih =>
      cases segment with
      | literal source value =>
          have htext : (Segment.literal source value).formatText.toList =
              Segment.doubleBraces value.toList := String.toList_ofList
          rw [List.flatMap_cons, htext, piecesFrom_doubleBraces, ih h]
          rfl
      | directive d =>
          obtain ⟨hd, hrest⟩ := List.forall_mem_cons.mp h
          obtain ⟨inside, hinside, hread, htext⟩ := Directive.exists_formatField hd
          have htext : (Segment.directive d).formatText.toList = '{' :: (inside ++ ['}']) := htext
          rw [List.flatMap_cons, htext, List.cons_append, List.append_assoc,
            List.singleton_append, piecesFrom_field hinside hread, ih hrest]
          rfl

/-- The format string of a template is read as the pieces that its parts stand for. -/
theorem pieces?_formatString {t : Template} (h : ∀ d ∈ t.directives, d.WellFormed) :
    pieces? t.formatString = some (t.segments.flatMap Segment.pieces) := by
  rw [pieces?, formatString, String.toList_join, List.flatMap_map]
  exact piecesFrom_formatText h

/-- The fields among the pieces of parts are those of the directives. -/
theorem field?_pieces (segments : List Segment) :
    (segments.flatMap Segment.pieces).filterMap Piece.field? =
      (segments.filterMap Segment.directive?).map Directive.field := by
  induction segments with
  | nil => rfl
  | cons segment rest ih =>
      rw [List.flatMap_cons, List.filterMap_append, ih]
      cases segment with
      | literal source value =>
          have hnone : (value.toList.map Piece.char).filterMap Piece.field? = [] := by
            simp [List.filterMap_map, Function.comp_def, Piece.field?]
          rw [Segment.pieces, hnone]
          rfl
      | directive d => rfl

/-- Pieces of parts are rendered by showing one value for each directive. -/
theorem renderPieces_pieces
    (h : values.length = (segments.filterMap Segment.directive?).length) :
    renderPieces (segments.flatMap Segment.pieces) values =
      fill segments <$>
        ((segments.filterMap Segment.directive?).zip values).mapM Directive.showValue := by
  induction segments generalizing values with
  | nil => rfl
  | cons segment rest ih =>
      rw [List.flatMap_cons]
      cases segment with
      | literal source value =>
          rw [Segment.pieces, renderPieces_chars_append, ih h, ← comp_map]
          rfl
      | directive d =>
          obtain ⟨value, values, rfl⟩ : ∃ v vs, values = v :: vs :=
            List.exists_cons_of_length_eq_add_one h
          have hzip :
              ((Segment.directive d :: rest).filterMap Segment.directive?).zip (value :: values) =
                (d, value) :: (rest.filterMap Segment.directive?).zip values := rfl
          rw [Segment.pieces, List.singleton_append, renderPieces, ih (Nat.succ.inj h), hzip,
            List.mapM_cons, Directive.showValue]
          -- Both sides show the value first and then the others.
          cases d.field.show value with
          | error e => rfl
          | ok text =>
              generalize (rest.filterMap Segment.directive?).zip values = others
              cases others.mapM Directive.showValue <;> rfl

/-- The conversions are made in order. -/
theorem convert_eq_mapM (ds : List Directive) (values : List Value) :
    convert ds values = (ds.zip values).mapM Directive.convert := by
  induction ds generalizing values with
  | nil => rfl
  | cons d ds ih =>
      cases values with
      | nil => rfl
      | cons value values =>
          rw [convert, ih, List.zip_cons_cons, List.mapM_cons, Directive.convert]
          split <;> rfl

/-- As many values are passed to the fields as there are directives. -/
theorem length_of_convert {ds : List Directive} {converted : List Value}
    (h : (ds.zip values).mapM Directive.convert = .ok converted)
    (hlength : values.length = ds.length) : converted.length = ds.length := by
  rw [(mapM_eq_ok_iff.mp h).length_eq, List.length_zip, hlength, Nat.min_self]

/-- The format string of a template is rendered by showing one value for each directive. -/
theorem render_eq_fill {t : Template} (h : ∀ d ∈ t.directives, d.WellFormed)
    (hlength : values.length = t.arity) :
    render t.formatString values = (fun shown => String.ofList (fill t.segments shown)) <$>
      (t.directives.zip values).mapM Directive.showValue := by
  rw [render, pieces?_formatString h]
  simp only [renderPieces_pieces hlength]
  rw [← comp_map]
  rfl

/-- With the right number of values a template is rendered by its format string after the
conversions. -/
theorem format_eq_bind {t : Template} (hlength : values.length = t.arity) :
    t.format values =
      (t.directives.zip values).mapM Directive.convert >>= render t.formatString := by
  rw [format, if_neg (not_not_intro hlength), convert_eq_mapM]

/-- A template that was read is rendered part by part. Its format string is read as its own parts,
with one field for each directive; a wrong number of values is refused; otherwise the values are
converted, then shown, in order, and the first failure is that of the whole; the result is the parts
one after another. Without directives it is the text of the template. -/
theorem format_follows_segments {text : String} {t : Template} (h : parse text = .ok t)
    (values : List Value) :
    pieces? t.formatString = some (t.segments.flatMap Segment.pieces) ∧
    (t.segments.flatMap Segment.pieces).filterMap Piece.field? = t.directives.map Directive.field ∧
    (values.length ≠ t.arity →
      t.format values = .error (.argumentCount t.arity values.length)) ∧
    (values.length = t.arity →
      (∀ converted, (t.directives.zip values).mapM Directive.convert = .ok converted →
        t.format values = render t.formatString converted) ∧
      (∀ e, t.format values = .error e ↔
        FirstFails Directive.convert (t.directives.zip values) e ∨
        ∃ converted, (t.directives.zip values).mapM Directive.convert = .ok converted ∧
          FirstFails Directive.showValue (t.directives.zip converted) e) ∧
      ∀ result, t.format values = .ok result ↔ ∃ converted shown,
        (t.directives.zip values).mapM Directive.convert = .ok converted ∧
        (t.directives.zip converted).mapM Directive.showValue = .ok shown ∧
        String.ofList (fill t.segments shown) = result) ∧
    (t.arity = 0 → ∃ result, t.text = .ok result ∧ t.format [] = .ok result) := by
  have hd := wellFormed_of_parse h
  refine ⟨pieces?_formatString hd, field?_pieces t.segments, fun hne => if_pos hne,
    fun hlength => ?_, fun hzero => ⟨t.plainText, if_pos hzero, ?_⟩⟩
  · have hrender {converted : List Value}
        (hc : (t.directives.zip values).mapM Directive.convert = .ok converted) :=
      render_eq_fill hd (length_of_convert hc hlength)
    rw [format_eq_bind hlength]
    refine ⟨fun converted hc => by rw [hc]; rfl, fun e => ?_, fun result => ?_⟩
    · rw [bind_eq_error_iff, mapM_eq_error_iff]
      refine or_congr_right (exists_congr fun converted => and_congr_right fun hc => ?_)
      rw [hrender hc, map_eq_error_iff, mapM_eq_error_iff]
    · rw [bind_eq_ok_iff]
      refine exists_congr fun converted => ?_
      rw [exists_and_left]
      refine and_congr_right fun hc => ?_
      rw [hrender hc, map_eq_ok_iff]
  · have hnone : t.directives = [] := List.length_eq_zero_iff.mp hzero
    have hlength : ([] : List Value).length = t.arity := hzero.symm
    rw [format_eq_bind hlength, hnone]
    exact render_formatString hzero []

/-- Braces next to fields, and a value that is turned into an integer. -/
theorem format_follows_segments_braces : ∃ t, parse "\x7b%s\x7d\x7d%03d%%\x7b" = .ok t ∧
    t.format [.text "\x7d", .bool true] = .ok "\x7b\x7d\x7d\x7d001%\x7b" := by
  have hparse : parse "\x7b%s\x7d\x7d%03d%%\x7b" = .ok ⟨[.literal "\x7b" "\x7b",
      .directive ⟨.string, none, none, none⟩, .literal "\x7d\x7d" "\x7d\x7d",
      .directive ⟨.decimal, none, some "03", none⟩, .literal "%%" "%", .literal "\x7b" "\x7b"]⟩ :=
    toOption_eq_some_iff.mp (by decide +kernel)
  obtain ⟨-, -, -, hrender, -⟩ := format_follows_segments hparse [.text "\x7d", .bool true]
  obtain ⟨-, -, hresult⟩ := hrender (by decide)
  refine ⟨_, hparse, (hresult _).mpr ⟨[.text "\x7d", .int 1], ["\x7d".toList, "001".toList], ?_⟩⟩
  refine ⟨rfl, ?_, by decide +kernel⟩
  exact toOption_eq_some_iff.mp (by decide +kernel)

end Template

end Phrasebook
