import Mathlib.Data.List.Basic
import Phrasebook.Proofs.Outcome
import Phrasebook.Template.Parse

/-!
# Templates and their texts

Cutting a text into parts loses nothing: the parts, written one after another, are the text. A
template without directives is rendered by its format string as the text that its parts show, since
doubled braces stand for themselves.
-/

namespace Phrasebook

namespace Directive

/-- The flag and the rest are the text. -/
private theorem append_readFlag (text : List Char) :
    ((readFlag text).1.getD "").toList ++ (readFlag text).2 = text := by
  cases text with
  | nil => rfl
  | cons c rest =>
      rw [readFlag]
      split
      · simp [Char.toString]
      · rfl

/-- The digits and the rest are the text. -/
private theorem append_readDigits (text : List Char) :
    ((readDigits text).1.getD "").toList ++ (readDigits text).2 = text := by
  have h := List.takeWhile_append_dropWhile (p := Char.isDigit) (l := text)
  unfold readDigits
  cases hd : text.takeWhile Char.isDigit with
  | nil => simpa [hd] using h
  | cons c digits => simpa [hd] using h

/-- The precision, with its point, and the rest are the text. -/
private theorem append_readPrecision (text : List Char) (conversion : Conversion)
    (flag width : Option String) :
    (precisionText ⟨conversion, flag, width, (readPrecision text).1⟩).toList ++
      (readPrecision text).2 = text := by
  unfold readPrecision
  split
  · rename_i rest
    have h := append_readDigits rest
    split <;> rename_i he <;> simp_all [precisionText]
  · rfl

/-- A directive that is read, and the rest, are the text behind the percent sign. -/
theorem append_of_read? {text rest : List Char} {d : Directive}
    (h : read? text = some (d, rest)) : d.source.toList ++ rest = '%' :: text := by
  have hflag := append_readFlag text
  have hwidth := append_readDigits (readFlag text).2
  have hprecision := append_readPrecision (readDigits (readFlag text).2).2
  unfold read? at h
  simp only at h
  split at h
  · simp at h
  · rename_i c tail he
    obtain ⟨conversion, hc, hd⟩ := Option.map_eq_some_iff.mp h
    obtain ⟨rfl, rfl⟩ := Prod.mk.inj hd
    -- The letter that was read is the letter of the conversion found for it.
    have hletter : conversion.letter = c := by
      simpa using List.find?_some hc
    have htail := hprecision conversion (readFlag text).1 (readDigits (readFlag text).2).1
    rw [he] at htail
    simp only [source, String.toList_append, Char.toString, String.toList_singleton, hletter,
      List.append_assoc, List.singleton_append]
    rw [htail, hwidth, hflag]
    rfl

end Directive

namespace Template

/-- The text of a list of parts. -/
def sourceChars (segments : List Segment) : List Char := segments.flatMap (·.source.toList)

theorem toList_source (t : Template) : t.source.toList = sourceChars t.segments := by
  rw [source, String.toList_join, List.flatMap_map]
  rfl

/-- A run is written in front of the other parts, even if it is empty. -/
theorem sourceChars_flush (run : List Char) (segments : List Segment) :
    sourceChars (flush run segments) = run.reverse ++ sourceChars segments := by
  unfold flush
  cases run with
  | nil => rfl
  | cons c run => simp [sourceChars, Segment.source]

/-- The parts that are read are the pending run and the text. -/
theorem sourceChars_of_segmentsAfter {run text : List Char} {segments : List Segment}
    (h : segmentsAfter run text = .ok segments) : sourceChars segments = run.reverse ++ text := by
  fun_induction segmentsAfter run text generalizing segments with
  | case1 run =>
      obtain rfl := Except.ok.inj h
      rw [sourceChars_flush]
      rfl
  | case2 run rest ih =>
      obtain ⟨others, hothers, h⟩ := bind_eq_ok_iff.mp h
      obtain rfl := Except.ok.inj h
      rw [sourceChars_flush, sourceChars, List.flatMap_cons, ← sourceChars, ih hothers]
      rfl
  | case3 => cases h
  | case4 run rest _ d rest' hd _ ih =>
      obtain ⟨others, hothers, h⟩ := bind_eq_ok_iff.mp h
      obtain rfl := Except.ok.inj h
      rw [sourceChars_flush, sourceChars, List.flatMap_cons, ← sourceChars, ih hothers,
        ← Directive.append_of_read? hd]
      rfl
  | case5 run rest _ _ ih => simpa using ih h
  | case6 run c rest _ _ ih => simpa using ih h

/-- A template is written as the text that it was read from. -/
theorem source_of_parse {text : String} {t : Template} (h : parse text = .ok t) :
    t.source = text := by
  obtain ⟨segments, hs, rfl⟩ := map_eq_ok_iff.mp h
  apply String.toList_injective
  rw [toList_source]
  exact sourceChars_of_segmentsAfter hs

end Template

namespace Format

/-- Doubled braces are read as the characters that they stand for. -/
theorem piecesFrom_doubleBraces (text rest : List Char) :
    piecesFrom none (Segment.doubleBraces text ++ rest) =
      (piecesFrom none rest).map (text.map Piece.char ++ ·) := by
  induction text with
  | nil => simp [Segment.doubleBraces]
  | cons c text ih =>
      have hcons : Segment.doubleBraces (c :: text) =
          (if c = '{' ∨ c = '}' then [c, c] else [c]) ++ Segment.doubleBraces text := rfl
      rw [hcons, List.append_assoc]
      by_cases hopen : c = '{'
      · subst hopen
        simp [piecesFrom, ih, Option.map_map, Function.comp_def]
      · by_cases hclose : c = '}'
        · subst hclose
          simp [piecesFrom, ih, Option.map_map, Function.comp_def]
        · simp [piecesFrom, hopen, hclose, ih, Option.map_map, Function.comp_def]

/-- Characters are rendered as they are. -/
theorem renderPieces_chars (text : List Char) (values : List Value) :
    renderPieces (text.map Piece.char) values = .ok text := by
  induction text with
  | nil => rfl
  | cons c text ih =>
      rw [List.map_cons, renderPieces, ih]
      rfl

end Format

namespace Template

/-- Parts without directives are written in a format string as the text that they show, with its
braces doubled. -/
theorem formatText_of_literal {segments : List Segment}
    (h : segments.filterMap Segment.directive? = []) :
    segments.flatMap (·.formatText.toList) =
      Segment.doubleBraces (segments.flatMap (·.literalValue.toList)) := by
  induction segments with
  | nil => rfl
  | cons segment rest ih =>
      cases segment with
      | directive d => simp [Segment.directive?] at h
      | literal source value =>
          rw [List.flatMap_cons, List.flatMap_cons, ih (by simpa [Segment.directive?] using h)]
          simp [Segment.doubleBraces, Segment.formatText, Segment.literalValue]

/-- A template without directives is rendered as the text that it shows. -/
theorem render_formatString {t : Template} (h : t.arity = 0) (values : List Value) :
    Format.render t.formatString values = .ok t.plainText := by
  have hformat : t.formatString.toList = Segment.doubleBraces t.plainText.toList := by
    rw [formatString, plainText, String.toList_join, String.toList_join, List.flatMap_map,
      List.flatMap_map]
    exact formatText_of_literal (List.length_eq_zero_iff.mp h)
  have hpieces : Format.pieces? t.formatString =
      some (t.plainText.toList.map Format.Piece.char) := by
    have hdoubled := Format.piecesFrom_doubleBraces t.plainText.toList []
    rw [List.append_nil] at hdoubled
    rw [Format.pieces?, hformat, hdoubled, Format.piecesFrom, Option.map_some, List.append_nil]
  rw [Format.render, hpieces]
  simp only [Format.renderPieces_chars]
  rw [map_eq_ok_iff]
  exact ⟨_, rfl, String.ofList_toList⟩

end Template

end Phrasebook
