import Phrasebook.Proofs.Text.Line
import Phrasebook.Proofs.Text.Pattern
import Phrasebook.Section.Read

/-!
# The lines of entries

An entry has a tag, an equals sign and a text, with blanks around each of them. The pattern of such
lines leaves open which blanks belong to the text; the order of the search settles it: the blanks in
front are skipped as far as possible and the text is as short as possible. So the text is what is
left without the blanks around it. If there are only blanks, the last one is the text, since a text
has at least one character.
-/

namespace Phrasebook

open Text

/-- What follows the equals sign of an entry: blanks, a text on one line, blanks. -/
def valuePattern : List Part :=
  [.longest isBlank 0, .group (.shortest (· != '\n') 1), .longest isBlank 0, .final]

/-- The pattern of lines with an entry, `\s*([^\s=;#]+)\s*=\s*(.+?)\s*$`. -/
def entryPattern : List Part :=
  .longest isBlank 0 :: .group (.longest isTagChar 1) :: .longest isBlank 0 :: .char '=' ::
    valuePattern

/-- A line with an entry, cut into blanks, a tag, blanks, and what follows the equals sign. -/
structure IsEntryLine (line before tag between rest : List Char) : Prop where
  line_eq : line = before ++ (tag ++ (between ++ '=' :: rest))
  before_blank : ∀ c ∈ before, isBlank c = true
  tag_nonempty : tag ≠ []
  tag_chars : ∀ c ∈ tag, isBlank c = false ∧ c ≠ '=' ∧ c ≠ ';' ∧ c ≠ '#'
  between_blank : ∀ c ∈ between, isBlank c = true
  rest_nonempty : rest ≠ []
  feed : '\n' ∉ trim rest

/-- The text of an entry by what follows its equals sign: all without the blanks around it, or the
last character if there are only blanks. -/
def shownText (rest : List Char) : List Char :=
  if rest.all isBlank then rest.getLast?.toList else trim rest

section Trimming

variable {text front : List Char}

theorem takeWhile_append_trimStart (text : List Char) :
    text.takeWhile isBlank ++ trimStart text = text := List.takeWhile_append_dropWhile

theorem trim_eq_nil_iff : trim text = [] ↔ text.all isBlank = true := by
  rw [trim, trimEnd, List.reverse_eq_nil_iff, List.dropWhile_eq_nil_iff, List.all_eq_true]
  simp only [List.mem_reverse]
  constructor
  · intro h c hc
    rw [← takeWhile_append_trimStart text, List.mem_append] at hc
    exact hc.elim List.mem_takeWhile_imp (h c)
  · intro h c hc
    exact h c ((List.dropWhile_sublist _).mem hc)

/-- What stands before a text with a visible character does not change the trimming of its end. -/
theorem trimEnd_append (h : text.all isBlank = false) : trimEnd (front ++ text) =
    front ++ trimEnd text := by
  have hne : (text.reverse.dropWhile isBlank).isEmpty = false := by
    rw [List.isEmpty_eq_false_iff, ne_eq, List.dropWhile_eq_nil_iff]
    intro hall
    rw [← Bool.not_eq_true, List.all_eq_true] at h
    exact h fun c hc => hall c (List.mem_reverse.mpr hc)
  rw [trimEnd, List.reverse_append, List.dropWhile_append, hne]
  simp [trimEnd]

/-- Only blanks are left of a text exactly behind its last visible character. -/
private theorem all_drop_iff {n : Nat} :
    (text.drop n).all isBlank = true ↔ (trimEnd text).length ≤ n := by
  have hsplit : trimEnd text ++ text.rtakeWhile isBlank = text :=
    List.rdropWhile_append_rtakeWhile
  have hblank : ∀ c ∈ text.rtakeWhile isBlank, isBlank c = true :=
    fun c hc => List.mem_rtakeWhile_imp hc
  rw [List.all_eq_true]
  constructor
  · intro h
    by_contra hlt
    have hdrop : (trimEnd text).drop n ≠ [] := by
      rw [ne_eq, List.drop_eq_nil_iff]
      exact hlt
    have hvisible : ¬ isBlank ((trimEnd text).getLast (List.ne_nil_of_drop_ne_nil hdrop)) = true :=
      List.rdropWhile_last_not isBlank text _
    have hmem : (trimEnd text).getLast (List.ne_nil_of_drop_ne_nil hdrop) ∈
        (trimEnd text ++ text.rtakeWhile isBlank).drop n := by
      rw [← List.getLast_drop hdrop, List.drop_append_of_le_length (by omega)]
      exact List.mem_append_left _ (List.getLast_mem hdrop)
    rw [hsplit] at hmem
    exact hvisible (h _ hmem)
  · intro h c hc
    have hmem : c ∈ text.drop (trimEnd text).length :=
      (List.drop_sublist_drop_left text h).mem hc
    have hrest : text.drop (trimEnd text).length = text.rtakeWhile isBlank := by
      calc text.drop (trimEnd text).length
          = (trimEnd text ++ text.rtakeWhile isBlank).drop (trimEnd text).length := by rw [hsplit]
        _ = text.rtakeWhile isBlank := List.drop_left
    exact hblank c (hrest ▸ hmem)

end Trimming

section Values

variable {rest : List Char}

/-- Blanks up to the end. -/
private theorem firstMatch_blanks_final (text : List Char) :
    firstMatch [.longest isBlank 0, .final] text =
      if text.all isBlank then some [] else none := by
  split
  · rename_i hall
    have hrun : text.takeWhile isBlank = text :=
      List.takeWhile_eq_self_iff.mpr (List.all_eq_true.mp hall)
    rw [firstMatch, sizes_longest (Nat.zero_le _), List.findSome?_cons, hrun]
    simp [firstMatch, Part.sizes, Part.keep]
  · rename_i hvisible
    rw [firstMatch, List.findSome?_eq_none_iff]
    intro n hn
    -- A visible character is left behind every run of blanks, so the end is not reached.
    have hdrop : (text.drop n).all isBlank ≠ true := by
      intro hdrop
      have hle : n ≤ (text.takeWhile isBlank).length := by
        rw [Part.sizes, runSizes, List.mem_reverse, List.mem_range'_1] at hn
        omega
      have htake : (text.take n).all isBlank = true := by
        rw [List.all_eq_true]
        exact (le_length_takeWhile_iff (hle.trans (List.takeWhile_sublist _).length_le)).mp hle
      refine hvisible ?_
      rw [← List.take_append_drop n text, List.all_append, htake, hdrop]
      rfl
    have hfinal : ¬ (text.drop n = [] ∨ text.drop n = ['\n']) := by
      rintro (he | he) <;> exact hdrop (he ▸ rfl)
    rw [firstMatch, Part.sizes, if_neg hfinal]
    rfl

/-- The shortest text with only blanks behind it ends at the last visible character. -/
theorem firstMatch_shortest (text : List Char) :
    firstMatch [.group (.shortest (· != '\n') 1), .longest isBlank 0, .final] text =
      if max 1 (trimEnd text).length ≤ (text.takeWhile (· != '\n')).length then
        some [text.take (max 1 (trimEnd text).length)]
      else none := by
  have hstep (n : Nat) : (firstMatch [.longest isBlank 0, .final] (text.drop n)).map
      (Part.keep (.group (.shortest (· != '\n') 1)) (text.take n)) =
        if (trimEnd text).length ≤ n then some [text.take n] else none := by
    rw [firstMatch_blanks_final, if_congr all_drop_iff rfl rfl]
    split <;> rfl
  rw [firstMatch, Part.sizes, Part.sizes, runSizes]
  simp only [hstep]
  rw [findSome?_range'_from (fun n => [text.take n])]
  exact if_congr (by omega) rfl rfl

/-- If a character is visible, the shortest text is the one without the blanks behind it. -/
private theorem firstMatch_shortest_of_visible {text : List Char} (h : text.all isBlank = false) :
    firstMatch [.group (.shortest (· != '\n') 1), .longest isBlank 0, .final] text =
      if '\n' ∈ trimEnd text then none else some [trimEnd text] := by
  have hpart : trimEnd text <+: text := List.rdropWhile_prefix isBlank text
  have htake : text.take (trimEnd text).length = trimEnd text :=
    (List.prefix_iff_eq_take.mp hpart).symm
  have hpos : 1 ≤ (trimEnd text).length := by
    by_contra hlt
    have hall : (text.drop 0).all isBlank = true := all_drop_iff.mpr (by omega)
    rw [List.drop_zero, h] at hall
    cases hall
  have hfeed : (trimEnd text).length ≤ (text.takeWhile (· != '\n')).length ↔
      ¬ '\n' ∈ trimEnd text := by
    rw [le_length_takeWhile_iff hpart.length_le, htake]
    simp only [bne_iff_ne]
    exact ⟨fun h hmem => h _ hmem rfl, fun h c hc he => h (he ▸ hc)⟩
  rw [firstMatch_shortest, Nat.max_eq_right hpos, htake, if_congr hfeed rfl rfl, ite_not]

/-- A text behind blanks is found if it stands on one line. -/
private theorem firstMatch_value_of_visible (h : rest.all isBlank = false) :
    firstMatch valuePattern rest = if '\n' ∈ trim rest then none else some [trim rest] := by
  have hstart : (trimStart rest).all isBlank = false := by
    rw [← Bool.not_eq_true] at h ⊢
    intro hall
    refine h (trim_eq_nil_iff.mp ?_)
    rw [trim, trimEnd, List.reverse_eq_nil_iff, List.dropWhile_eq_nil_iff]
    simpa using hall
  have hdrop {n : Nat} (hn : n ≤ (rest.takeWhile isBlank).length) :
      rest.drop n = (rest.takeWhile isBlank).drop n ++ trimStart rest := by
    rw [← List.drop_append_of_le_length hn, takeWhile_append_trimStart]
  have hmatch {n : Nat} (hn : n ≤ (rest.takeWhile isBlank).length) :
      firstMatch [.group (.shortest (· != '\n') 1), .longest isBlank 0, .final] (rest.drop n) =
        if '\n' ∈ (rest.takeWhile isBlank).drop n ++ trim rest then none
        else some [(rest.takeWhile isBlank).drop n ++ trim rest] := by
    rw [hdrop hn, firstMatch_shortest_of_visible, trimEnd_append hstart]
    · rfl
    · rw [List.all_append, hstart, Bool.and_false]
  split
  · rename_i hfeed
    rw [valuePattern, firstMatch, List.findSome?_eq_none_iff]
    intro n hn
    rw [Part.sizes, runSizes, List.mem_reverse, List.mem_range'_1] at hn
    rw [hmatch (by omega), if_pos (List.mem_append_right _ hfeed)]
    rfl
  · rename_i hfeed
    rw [valuePattern, firstMatch, sizes_longest (Nat.zero_le _), List.findSome?_cons,
      hmatch (Nat.le_refl _), List.drop_length, List.nil_append, if_neg hfeed]
    rfl

/-- Of blanks alone the last one is the text. -/
private theorem firstMatch_value_of_blank (h : rest.all isBlank = true)
    (hlast : rest.getLast? ≠ some '\n') :
    firstMatch valuePattern rest = rest.getLast?.map fun c => [[c]] := by
  have hrun : rest.takeWhile isBlank = rest :=
    List.takeWhile_eq_self_iff.mpr (List.all_eq_true.mp h)
  have hnil :
      firstMatch [.group (.shortest (· != '\n') 1), .longest isBlank 0, .final] [] = none := by
    rw [firstMatch_shortest]
    rfl
  rw [valuePattern, firstMatch, sizes_longest (Nat.zero_le _), List.findSome?_cons, hrun,
    List.drop_length, hnil]
  rcases List.eq_nil_or_concat rest with rfl | ⟨front, c, rfl⟩
  · rfl
  · -- All blanks leave no character for the text; all but the last one leave one.
    have hc : c ≠ '\n' := by
      rintro rfl
      exact hlast (by simp)
    have hblank : isBlank c = true := List.all_eq_true.mp h c (by simp)
    have hlength : (front.concat c).length - 0 = front.length + 1 := by simp
    rw [hlength, List.range'_1_concat, List.reverse_append, List.reverse_singleton,
      List.singleton_append, Option.map_none, List.findSome?_cons, Nat.zero_add,
      List.concat_eq_append, List.drop_left, firstMatch_shortest]
    simp [trimEnd, hblank, hc, Part.keep]

/-- What follows an equals sign is refused if it is empty or has more than one line. -/
theorem entryText?_eq (rest : List Char) : entryText? rest =
    if rest ≠ [] ∧ '\n' ∉ trim rest then some (String.ofList (shownText rest)) else none := by
  cases hall : rest.all isBlank with
  | true =>
      rw [entryText?, trim_eq_nil_iff.mpr hall, shownText, if_pos hall]
      cases rest.eq_nil_or_concat with
      | inl hnil => simp [hnil]
      | inr hconcat =>
          obtain ⟨front, c, rfl⟩ := hconcat
          simp
  | false =>
      have hne : trim rest ≠ [] := by
        rw [ne_eq, trim_eq_nil_iff, hall]
        exact Bool.false_ne_true
      have hrest : rest ≠ [] := by
        rintro rfl
        exact hne rfl
      rw [entryText?, shownText, hall]
      split
      · rename_i hnil
        exact absurd hnil hne
      · simp [hrest]

/-- The search finds the text of an entry behind its equals sign. -/
theorem firstMatch_value (hlast : rest.getLast? ≠ some '\n') :
    firstMatch valuePattern rest = (entryText? rest).map fun text => [text.toList] := by
  rw [entryText?_eq]
  cases hall : rest.all isBlank with
  | true =>
      rw [firstMatch_value_of_blank hall hlast, trim_eq_nil_iff.mpr hall, shownText, if_pos hall]
      cases hchar : rest.getLast? with
      | none => simp [List.getLast?_eq_none_iff.mp hchar]
      | some c =>
          have hne : rest ≠ [] := by
            rintro rfl
            cases hchar
          simp [hne]
  | false =>
      have hrest : rest ≠ [] := by
        rintro rfl
        cases hall
      rw [firstMatch_value_of_visible hall, shownText, hall]
      by_cases hfeed : '\n' ∈ trim rest <;> simp [hfeed, hrest]

end Values

section Lines

variable {line before tag between rest : List Char}

/-- A character of a tag is no blank and none of three others. -/
theorem isTagChar_iff {c : Char} :
    isTagChar c = true ↔ isBlank c = false ∧ c ≠ '=' ∧ c ≠ ';' ∧ c ≠ '#' := by
  simp [isTagChar, and_assoc]

/-- Blanks are skipped in front of what cannot begin with one. -/
theorem firstMatch_blanks {parts : List Part} (h : Refuse parts isBlank) (text : List Char) :
    firstMatch (.longest isBlank 0 :: parts) text = firstMatch parts (trimStart text) := by
  rw [firstMatch_longest h, if_pos (Nat.zero_le _), trimStart]

/-- The search finds the tag and the text of the entry that a line adds. -/
theorem firstMatch_entry (hlast : line.getLast? ≠ some '\n') :
    firstMatch entryPattern line =
      (entryParts? line).map fun parts => [parts.1.toList, parts.2.toList] := by
  have hblank : ∀ c, isBlank c = true → isTagChar c = false := by
    intro c hc
    simp [isTagChar, hc]
  have htag : ∀ c, isTagChar c = true → isBlank c = false := fun c hc => (isTagChar_iff.mp hc).1
  have hequals {parts : List Part} : Refuse (.longest isBlank 0 :: .char '=' :: parts) isTagChar :=
    .longest htag (.char rfl)
  have hsuffix : trimStart ((trimStart line).dropWhile isTagChar) <:+ line :=
    ((List.dropWhile_suffix _).trans (List.dropWhile_suffix _)).trans (List.dropWhile_suffix _)
  rw [entryPattern, firstMatch_blanks (.group_longest hblank), firstMatch_group_longest hequals,
    firstMatch_blanks (.char rfl)]
  simp only [entryParts?]
  cases hrun : (trimStart line).takeWhile isTagChar with
  | nil => rfl
  | cons c tag =>
      rw [if_pos (by simp), if_neg (by simp)]
      split
      · rename_i rest hafter
        have hrest : rest.getLast? ≠ some '\n' := by
          intro hfeed
          obtain ⟨front, hline⟩ := hafter ▸ hsuffix
          refine hlast ?_
          rw [← hline, List.getLast?_append, List.getLast?_cons, hfeed]
          rfl
        rw [hafter, firstMatch_char_cons, firstMatch_value hrest, Option.map_map, Option.map_map]
        simp [Function.comp_def]
      · rename_i hafter
        rw [firstMatch_char_of_ne]
        · rfl
        · intro hhead
          obtain ⟨rest, hrest⟩ := List.head?_eq_some_iff.mp hhead
          exact hafter rest hrest

namespace IsEntryLine

/-- The tag is found behind the leading blanks. -/
theorem trimStart_eq (h : IsEntryLine line before tag between rest) :
    line.takeWhile isBlank = before ∧ trimStart line = tag ++ (between ++ '=' :: rest) := by
  have hhead : ∀ c, (tag ++ (between ++ '=' :: rest)).head? = some c → isBlank c = false := by
    intro c hc
    rw [List.head?_append_of_ne_nil _ h.tag_nonempty] at hc
    exact (h.tag_chars c (List.mem_of_mem_head? hc)).1
  rw [h.line_eq]
  exact ⟨takeWhile_append_of_head? h.before_blank hhead,
    dropWhile_append_of_head? h.before_blank hhead⟩

/-- The tag reaches up to the blanks or the equals sign. -/
theorem tag_eq (h : IsEntryLine line before tag between rest) :
    (trimStart line).takeWhile isTagChar = tag ∧
      (trimStart line).dropWhile isTagChar = between ++ '=' :: rest := by
  have htag : ∀ c ∈ tag, isTagChar c = true := fun c hc => isTagChar_iff.mpr (h.tag_chars c hc)
  have hhead : ∀ c, (between ++ '=' :: rest).head? = some c → isTagChar c = false := by
    intro c hc
    cases between with
    | nil =>
        obtain rfl := Option.some.inj hc
        rfl
    | cons d between =>
        obtain rfl := Option.some.inj hc
        simp [isTagChar, h.between_blank d (List.mem_cons_self ..)]
  rw [h.trimStart_eq.2]
  exact ⟨takeWhile_append_of_head? htag hhead, dropWhile_append_of_head? htag hhead⟩

/-- The blanks behind the tag reach up to the equals sign. -/
theorem between_eq (h : IsEntryLine line before tag between rest) :
    ((trimStart line).dropWhile isTagChar).takeWhile isBlank = between ∧
      trimStart ((trimStart line).dropWhile isTagChar) = '=' :: rest := by
  have hhead : ∀ c, ('=' :: rest).head? = some c → isBlank c = false := by
    rintro c ⟨⟩
    rfl
  rw [h.tag_eq.2]
  exact ⟨takeWhile_append_of_head? h.between_blank hhead,
    dropWhile_append_of_head? h.between_blank hhead⟩

/-- A line is cut in one way only. -/
theorem unique {before' tag' between' rest' : List Char}
    (h : IsEntryLine line before tag between rest)
    (h' : IsEntryLine line before' tag' between' rest') :
    before' = before ∧ tag' = tag ∧ between' = between ∧ rest' = rest := by
  have hrest : '=' :: rest' = '=' :: rest := h'.between_eq.2.symm.trans h.between_eq.2
  exact ⟨h'.trimStart_eq.1.symm.trans h.trimStart_eq.1, h'.tag_eq.1.symm.trans h.tag_eq.1,
    h'.between_eq.1.symm.trans h.between_eq.1, (List.cons.inj hrest).2⟩

/-- The parts of a line are its tag and the text by what follows the equals sign. -/
theorem entryParts?_eq (h : IsEntryLine line before tag between rest) :
    entryParts? line = some (String.ofList tag, String.ofList (shownText rest)) := by
  simp only [entryParts?, h.tag_eq.1, h.between_eq.2, entryText?_eq]
  simp [h.tag_nonempty, h.rest_nonempty, h.feed]

end IsEntryLine

/-- A line that adds an entry is cut into the parts of one. -/
theorem exists_isEntryLine {parts : String × String} (h : entryParts? line = some parts) :
    ∃ before tag between rest, IsEntryLine line before tag between rest := by
  simp only [entryParts?] at h
  split at h
  · cases h
  · rename_i htag
    split at h
    · rename_i rest hequals
      rw [entryText?_eq, Option.map_eq_some_iff] at h
      obtain ⟨text, htext, -⟩ := h
      obtain ⟨hrest, -⟩ := Option.ite_none_right_eq_some.mp htext
      refine ⟨line.takeWhile isBlank, (trimStart line).takeWhile isTagChar,
        ((trimStart line).dropWhile isTagChar).takeWhile isBlank, rest, ?_⟩
      constructor
      · rw [← hequals, takeWhile_append_trimStart, List.takeWhile_append_dropWhile,
          takeWhile_append_trimStart]
      · exact fun c hc => List.mem_takeWhile_imp hc
      · simpa using htag
      · exact fun c hc => isTagChar_iff.mp (List.mem_takeWhile_imp hc)
      · exact fun c hc => List.mem_takeWhile_imp hc
      · exact hrest.1
      · exact hrest.2
    · cases h

/-- A line without its ending does not end in a line feed. -/
theorem getLast?_chomp_ne (raw : List Char) : (chomp raw).getLast? ≠ some '\n' := by
  intro hlast
  rw [chomp, List.getLast?_reverse] at hlast
  have hend := List.head?_dropWhile_not (fun c : Char => c = '\r' ∨ c = '\n') raw.reverse
  rw [hlast] at hend
  cases hend

/-- The grammar of lines with an entry. The search for the pattern finds the tag and the text that
reading takes from a line. It succeeds exactly on the lines that are made of blanks, a tag, blanks,
an equals sign and a rest, which is not empty and has no line feed once it is trimmed. A line is cut
into these parts in one way only; the search keeps the tag and the text by the rest. -/
theorem entry_lines_follow_grammar (raw : List Char) :
    (firstMatch entryPattern (chomp raw) =
      (entryParts? (chomp raw)).map fun parts => [parts.1.toList, parts.2.toList]) ∧
    ((firstMatch entryPattern (chomp raw)).isSome = true ↔
      ∃ before tag between rest, IsEntryLine (chomp raw) before tag between rest) ∧
    ∀ before tag between rest, IsEntryLine (chomp raw) before tag between rest →
      firstMatch entryPattern (chomp raw) = some [tag, shownText rest] ∧
      ∀ before' tag' between' rest', IsEntryLine (chomp raw) before' tag' between' rest' →
        before' = before ∧ tag' = tag ∧ between' = between ∧ rest' = rest := by
  have hmatch := firstMatch_entry (getLast?_chomp_ne raw)
  refine ⟨hmatch, ⟨fun hsome => ?_, ?_⟩, fun before tag between rest h => ⟨?_, ?_⟩⟩
  · rw [hmatch, Option.isSome_map, Option.isSome_iff_exists] at hsome
    obtain ⟨parts, hparts⟩ := hsome
    exact exists_isEntryLine hparts
  · rintro ⟨before, tag, between, rest, h⟩
    rw [hmatch, h.entryParts?_eq]
    rfl
  · rw [hmatch, h.entryParts?_eq]
    simp
  · exact fun before' tag' between' rest' h' => h.unique h'

end Lines

end Phrasebook
