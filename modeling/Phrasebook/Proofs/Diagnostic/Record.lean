import Phrasebook.Proofs.Diagnostic.Json

/-!
# JSON records are read back

Diagnostics in the JSON layout stand between empty lines, and no record has a line feed of its own,
whatever its texts hold. So a text of records is cut into the records, and each of them is a JSON
object that says what its diagnostic says: the place only if there is one, and the hint only if it
is not empty.
-/

namespace Phrasebook

open Text

namespace Json

section Strings

/-- A character is read back from its place in a string. -/
private theorem readChars?_jsonChar (c : Char) (rest : List Char) :
    readChars? (Diagnostic.jsonChar c ++ rest) =
      (readChars? rest).map fun (chars, after) => (c :: chars, after) := by
  unfold Diagnostic.jsonChar
  split_ifs with hescaped hn hr ht hb hf hcontrol
  · rcases hescaped with rfl | rfl <;> simp [readChars?, escaped?]
  · simp [readChars?, escaped?, hn]
  · simp [readChars?, escaped?, hr]
  · simp [readChars?, escaped?, ht]
  · simp [readChars?, escaped?, hb]
  · simp [readChars?, escaped?, hf]
  · have hhex : readHex? (hexDigits 4 c.toNat) = some c.toNat := by
      rw [readHex?_hexDigits, Nat.mod_eq_of_lt (by omega)]
    have hchar := bind_charAt?_readHex? 4 (c := c) (by omega)
    rw [hhex, Option.bind_some] at hchar
    simp only [hexDigits, List.nil_append, List.cons_append] at hhex ⊢
    rw [readChars?, hhex]
    simp only [Option.bind_eq_bind, Option.bind_some, hchar]
  · rw [not_or] at hescaped
    rw [List.singleton_append, readChars?]
    · rw [if_neg (not_or.mpr ⟨hescaped.2, hcontrol⟩)]
    all_goals
      intros
      simp_all

/-- A text is read back from its place in a string. -/
private theorem readChars?_flatMap (text rest : List Char) :
    readChars? (text.flatMap Diagnostic.jsonChar ++ '"' :: rest) = some (text, rest) := by
  induction text with
  | nil => simp [readChars?]
  | cons c text ih =>
      rw [List.flatMap_cons, List.append_assoc, readChars?_jsonChar, ih]
      rfl

theorem toList_jsonString (text : String) : (Diagnostic.jsonString text).toList =
    '"' :: (text.toList.flatMap Diagnostic.jsonChar ++ ['"']) := by
  rw [Diagnostic.jsonString, String.toList_ofList]

/-- A string is read back, whatever follows it. -/
theorem readString?_jsonString (text : String) (rest : List Char) :
    readString? ((Diagnostic.jsonString text).toList ++ rest) = some (text, rest) := by
  have hmark (chars : List Char) : afterMark? '"' ('"' :: chars) = some chars := rfl
  rw [toList_jsonString, List.cons_append, List.append_assoc, List.singleton_append, readString?,
    hmark]
  simp [readChars?_flatMap]

/-- A line feed is escaped. -/
theorem feed_not_mem_jsonChar (c : Char) : '\n' ∉ Diagnostic.jsonChar c := by
  unfold Diagnostic.jsonChar
  split_ifs with hescaped hn hr ht hb hf hcontrol
  · rcases hescaped with rfl | rfl <;> decide
  · decide
  · decide
  · decide
  · decide
  · decide
  · simp only [List.mem_cons, not_or]
    refine ⟨by decide, by decide, fun h => ?_⟩
    obtain ⟨d, hd, hfeed⟩ := mem_hexDigits h
    have hdigits : ∀ d < 16, '\n' ≠ Nat.digitChar d := by decide
    exact hdigits d hd hfeed
  · rw [List.mem_singleton]
    exact Ne.symm hn

theorem feed_not_mem_jsonString (text : String) :
    '\n' ∉ (Diagnostic.jsonString text).toList := by
  rw [toList_jsonString, List.mem_cons, List.mem_append, List.mem_flatMap, List.mem_singleton]
  rintro (h | ⟨c, -, hc⟩ | h)
  · exact absurd h (by decide)
  · exact feed_not_mem_jsonChar c hc
  · exact absurd h (by decide)

end Strings

section Numbers

/-- A number is written without a zero in front of other digits. -/
private theorem head?_toDigits_ne {n : Nat} (h : n ≠ 0) : (Nat.toDigits 10 n).head? ≠ some '0' := by
  induction n using Nat.strongRecOn with
  | ind n ih =>
      rw [Nat.toDigits_eq_if (by decide)]
      split
      · rename_i hlt
        have hdigit : ∀ d < 10, d ≠ 0 → [Nat.digitChar d].head? ≠ some '0' := by decide
        exact hdigit n hlt h
      · rename_i hlt
        rw [List.head?_append_of_ne_nil _ Nat.toDigits_ne_nil]
        exact ih (n / 10) (by omega) (by omega)

private theorem readWhole?_toDigits (n : Nat) {c : Char} (hc : c.isDigit = false)
    (rest : List Char) :
    readWhole? (Nat.toDigits 10 n ++ c :: rest) = some (Nat.toDigits 10 n, c :: rest) := by
  by_cases hzero : n = 0
  · rw [hzero]
    rfl
  · have hdigits : ∀ d ∈ Nat.toDigits 10 n, d.isDigit = true := fun d hd =>
      Nat.isDigit_of_mem_toDigits (by decide) (by decide) hd
    have htake : (Nat.toDigits 10 n ++ c :: rest).takeWhile Char.isDigit = Nat.toDigits 10 n := by
      rw [List.takeWhile_append_of_pos hdigits, List.takeWhile_cons_of_neg (by simp [hc]),
        List.append_nil]
    have hdrop : (Nat.toDigits 10 n ++ c :: rest).dropWhile Char.isDigit = c :: rest := by
      rw [List.dropWhile_append_of_pos hdigits, List.dropWhile_cons_of_neg (by simp [hc])]
    have hempty : (Nat.toDigits 10 n).isEmpty = false :=
      List.isEmpty_eq_false_iff.mpr Nat.toDigits_ne_nil
    rw [readWhole?, readDigits?, htake, hdrop, hempty]
    · rfl
    · intro rest' h
      have hhead := congrArg List.head? h
      rw [List.head?_append_of_ne_nil _ Nat.toDigits_ne_nil] at hhead
      exact head?_toDigits_ne hzero hhead

/-- A number before a mark that is no part of it is read back. -/
theorem readNumber?_toDigits (n : Nat) {c : Char}
    (hc : c.isDigit = false ∧ c ≠ '.' ∧ c ≠ 'e' ∧ c ≠ 'E') (rest : List Char) :
    readNumber? (Nat.toDigits 10 n ++ c :: rest) = some (.number n 0, c :: rest) := by
  obtain ⟨hdigit, hpoint, hexponent⟩ := hc
  have hsign : (Nat.toDigits 10 n ++ c :: rest).head? ≠ some '-' := by
    rw [List.head?_append_of_ne_nil _ Nat.toDigits_ne_nil]
    intro hhead
    have hminus := Nat.isDigit_of_mem_toDigits (by decide) (by decide) (List.mem_of_mem_head? hhead)
    exact absurd hminus (by decide)
  have hfraction : readFraction? (c :: rest) = some ([], c :: rest) := by
    rw [readFraction?]
    rintro rest' ⟨⟩
    exact hpoint rfl
  have hexponent : readExponent? (c :: rest) = some (0, c :: rest) := by
    rw [readExponent?, if_neg (not_or.mpr hexponent)]
  rw [readNumber?, if_neg hsign]
  simp [readWhole?_toDigits n hdigit, hfraction, hexponent, signed, Nat.ofDigitChars_ten_toDigits]

end Numbers

section Values

/-- A text writes a value: it is read as the value where a member of an object can end, and it has
no line feed. -/
structure Writes (text : String) (value : Json) : Prop where
  feedless : '\n' ∉ text.toList
  reads : ∀ n c rest, c = ',' ∨ c = '\x7d' →
    readValue? (n + 1) (text.toList ++ c :: rest) = some (value, c :: rest)

private theorem skipSpace_cons {c : Char} (h : isSpace c = false) (rest : List Char) :
    skipSpace (c :: rest) = c :: rest :=
  List.dropWhile_cons_of_neg (by simp [h])

theorem writes_jsonString (text : String) :
    Writes (Diagnostic.jsonString text) (.string text) where
  feedless := feed_not_mem_jsonString text
  reads n c rest _ := by
    have hstring := readString?_jsonString text (c :: rest)
    rw [toList_jsonString, List.cons_append] at hstring ⊢
    rw [readValue?, skipSpace_cons (by decide)]
    simp only [if_true, hstring, Option.map_some]

theorem writes_null : Writes "null" .null where
  feedless := by decide
  reads _ _ _ _ := rfl

theorem writes_toString (n : Nat) : Writes (toString n) (.number n 0) where
  feedless := by
    rw [Nat.toString_eq_ofList_toDigits, String.toList_ofList]
    intro h
    exact absurd (Nat.isDigit_of_mem_toDigits (by decide) (by decide) h) (by decide)
  reads k c rest hc := by
    have hnumber := readNumber?_toDigits n (c := c) (by rcases hc with rfl | rfl <;> decide) rest
    rw [Nat.toString_eq_ofList_toDigits, String.toList_ofList]
    obtain ⟨d, ds, hds⟩ := List.exists_cons_of_ne_nil (Nat.toDigits_ne_nil (n := n) (b := 10))
    have hd : d.isDigit = true :=
      Nat.isDigit_of_mem_toDigits (by decide) (by decide) (hds ▸ List.mem_cons_self ..)
    -- A digit opens neither space nor a string, a list, an object or a word.
    have hne {e : Char} (he : e.isDigit = false) : d ≠ e := by
      rintro rfl
      rw [hd] at he
      cases he
    have hspace : isSpace d = false := by
      simp only [isSpace, Bool.or_eq_false_iff, beq_eq_false_iff_ne]
      exact ⟨⟨⟨hne (by decide), hne (by decide)⟩, hne (by decide)⟩, hne (by decide)⟩
    have hwords : (words.findSome? fun w =>
        (w.1.toList.isPrefixOf? (d :: (ds ++ c :: rest))).map (w.2, ·)) = none := by
      have hfirst (e : Char) (word : List Char) (he : e.isDigit = false) :
          (e :: word).isPrefixOf? (d :: (ds ++ c :: rest)) = none := by
        rw [List.isPrefixOf?, if_neg (by simpa using (hne he).symm)]
      simp [words, hfirst]
    rw [hds, List.cons_append] at hnumber ⊢
    rw [readValue?, skipSpace_cons hspace]
    simp only [hne (show '"'.isDigit = false by decide), hne (show '['.isDigit = false by decide),
      hne (show '\x7b'.isDigit = false by decide), if_false, readPlain?, hwords, hnumber]

end Values

section Members

variable {n : Nat} {text : String} {value : Json}

/-- A member of an object with the text of its value. -/
def memberText (m : String × String) : String := Diagnostic.jsonString m.1 ++ ": " ++ m.2

private theorem readValue?_space (n : Nat) (text : List Char) :
    readValue? (n + 1) (' ' :: text) = readValue? (n + 1) text := by
  rw [readValue?, readValue?]
  rfl

private theorem readMembers?_space (n : Nat) (text : List Char) :
    readMembers? (n + 1) (' ' :: text) = readMembers? (n + 1) text := by
  rw [readMembers?, readMembers?]
  rfl

private theorem afterMark?_cons {c : Char} (h : isSpace c = false) (rest : List Char) :
    afterMark? c (c :: rest) = some rest := by
  rw [afterMark?, skipSpace_cons h]
  exact if_pos rfl

theorem toList_memberText (m : String × String) : (memberText m).toList =
    (Diagnostic.jsonString m.1).toList ++ (':' :: ' ' :: m.2.toList) := by
  simp [memberText]

/-- A member with a comma behind it is followed by others. -/
private theorem readMembers?_comma (name : String) (h : Writes text value) (rest : List Char) :
    readMembers? (n + 2) ((memberText (name, text)).toList ++ ',' :: rest) =
      (readMembers? (n + 1) rest).map fun (members, after) =>
        ((name, value) :: members, after) := by
  rw [toList_memberText, List.append_assoc, readMembers?, readString?_jsonString]
  simp only [Option.bind_eq_bind, Option.bind_some, List.cons_append, readValue?_space,
    afterMark?_cons (show isSpace ':' = false by decide), h.reads n ',' rest (.inl rfl),
    afterMark?_cons (show isSpace ',' = false by decide)]

/-- A member with a brace behind it is the last one. -/
private theorem readMembers?_brace (name : String) (h : Writes text value) (rest : List Char) :
    readMembers? (n + 2) ((memberText (name, text)).toList ++ '\x7d' :: rest) =
      some ([(name, value)], rest) := by
  have hcomma : afterMark? ',' ('\x7d' :: rest) = none := rfl
  rw [toList_memberText, List.append_assoc, readMembers?, readString?_jsonString]
  simp only [Option.bind_eq_bind, Option.bind_some, List.cons_append, readValue?_space,
    afterMark?_cons (show isSpace ':' = false by decide), h.reads n '\x7d' rest (.inr rfl), hcomma,
    afterMark?_cons (show isSpace '\x7d' = false by decide), Option.map_some]

/-- Texts write members: each has the name of its member and the text of its value. -/
abbrev WritesMembers (ms : List (String × String)) (members : List (String × Json)) : Prop :=
  List.Forall₂ (fun m member => m.1 = member.1 ∧ Writes m.2 member.2) ms members

/-- Members with commas between them are read one by one. -/
theorem readMembers?_intercalate {ms : List (String × String)} {members : List (String × Json)}
    (h : WritesMembers ms members) (hne : ms ≠ []) (hn : ms.length < n) (rest : List Char) :
    readMembers? n ((", ".intercalate (ms.map memberText)).toList ++ '\x7d' :: rest) =
      some (members, rest) := by
  induction h generalizing n with
  | nil => exact absurd rfl hne
  | @cons m member ms members hm hms ih =>
      obtain ⟨name, text⟩ := m
      obtain ⟨_, value⟩ := member
      obtain ⟨rfl, hwrites⟩ := hm
      obtain ⟨n, rfl⟩ : ∃ k, n = k + 2 := ⟨n - 2, by simp at hn; omega⟩
      cases ms with
      | nil =>
          cases hms
          rw [List.map_singleton, String.intercalate_singleton, readMembers?_brace name hwrites]
      | cons next ms =>
          have hmore := ih (List.cons_ne_nil next ms) (n := n + 1) (by simp at hn ⊢; omega)
          have hsplit : (", ".intercalate (((name, text) :: next :: ms).map memberText)).toList =
              (memberText (name, text)).toList ++
                (',' :: ' ' :: (", ".intercalate ((next :: ms).map memberText)).toList) := by
            simp [String.toList_intercalate]
          rw [hsplit, List.append_assoc, List.cons_append, List.cons_append,
            readMembers?_comma name hwrites, readMembers?_space, hmore, Option.map_some]

theorem feed_not_mem_memberText (name : String) (h : Writes text value) :
    '\n' ∉ (memberText (name, text)).toList := by
  rw [toList_memberText]
  simp [feed_not_mem_jsonString, h.feedless]

/-- Joined members have no line feed. -/
theorem feed_not_mem_intercalate {ms : List (String × String)} {members : List (String × Json)}
    (h : WritesMembers ms members) :
    '\n' ∉ (", ".intercalate (ms.map memberText)).toList := by
  rw [String.toList_intercalate, List.map_map]
  induction h with
  | nil => exact List.not_mem_nil
  | @cons m member ms members hm hms ih =>
      have hfirst : '\n' ∉ (memberText m).toList := feed_not_mem_memberText m.1 hm.2
      cases ms with
      | nil => simpa using hfirst
      | cons next ms =>
          rw [List.map_cons, List.map_cons, List.intercalate_cons_cons, ← List.map_cons,
            List.mem_append, List.mem_append, not_or, not_or]
          exact ⟨⟨hfirst, by decide⟩, ih⟩

/-- Joined members have at least as many characters as there are members. -/
private theorem length_le_intercalate (ms : List (String × String)) :
    ms.length ≤ (", ".intercalate (ms.map memberText)).toList.length := by
  rw [String.toList_intercalate, List.map_map]
  induction ms with
  | nil => exact Nat.zero_le _
  | cons m ms ih =>
      have hm : 0 < (memberText m).toList.length := by
        rw [toList_memberText, List.length_append, List.length_cons]
        omega
      cases ms with
      | nil => simpa [Nat.one_le_iff_ne_zero, Nat.pos_iff_ne_zero] using hm
      | cons next ms =>
          rw [List.map_cons, List.map_cons, List.intercalate_cons_cons, ← List.map_cons,
            List.length_append, List.length_append, List.length_cons, Function.comp_apply]
          omega

/-- An object with members is read back, whatever follows it. -/
theorem readValue?_object {ms : List (String × String)} {members : List (String × Json)}
    (h : WritesMembers ms members) (hne : ms ≠ []) (hn : ms.length < n) (rest : List Char) :
    readValue? (n + 1)
        ('\x7b' :: ((", ".intercalate (ms.map memberText)).toList ++ '\x7d' :: rest)) =
      some (.object members, rest) := by
  have hmembers := readMembers?_intercalate h hne hn rest
  obtain ⟨m, ms, rfl⟩ := List.exists_cons_of_ne_nil hne
  -- The first name opens with its mark, so that the object is not empty.
  have hopen : ∃ chars, (", ".intercalate ((m :: ms).map memberText)).toList = '"' :: chars := by
    rw [String.toList_intercalate, List.map_cons, List.map_cons, toList_memberText,
      toList_jsonString]
    cases ms with
    | nil => exact ⟨_, rfl⟩
    | cons next ms =>
        rw [List.map_cons, List.map_cons, List.intercalate_cons_cons]
        exact ⟨_, rfl⟩
  obtain ⟨chars, hchars⟩ := hopen
  have hfull : afterMark? '\x7d' ((", ".intercalate ((m :: ms).map memberText)).toList ++
      '\x7d' :: rest) = none := by
    rw [hchars]
    rfl
  rw [readValue?, skipSpace_cons (by decide)]
  simp only [hfull, hmembers]
  rfl

end Members

end Json

namespace Text

/-- The first paragraph of a text and the other ones. Two line feeds in a row end a paragraph. -/
def cutParagraphs : List Char → List Char × List (List Char)
  | [] => ([], [])
  | '\n' :: '\n' :: rest => ([], (cutParagraphs rest).1 :: (cutParagraphs rest).2)
  | c :: rest => (c :: (cutParagraphs rest).1, (cutParagraphs rest).2)

/-- The paragraphs of a text, with nothing but two line feeds between them. -/
def paragraphs (text : String) : List String :=
  ((cutParagraphs text.toList).1 :: (cutParagraphs text.toList).2).map String.ofList

private theorem cutParagraphs_append {text : List Char} (h : '\n' ∉ text) (rest : List Char) :
    cutParagraphs (text ++ rest) =
      (text ++ (cutParagraphs rest).1, (cutParagraphs rest).2) := by
  induction text with
  | nil => rfl
  | cons c text ih =>
      rw [List.mem_cons, not_or] at h
      rw [List.cons_append, cutParagraphs, ih h.2, List.cons_append]
      rintro - rfl
      exact absurd rfl h.1

/-- Texts without line feeds are the paragraphs that they were joined from. -/
private theorem cutParagraphs_intercalate {first : List Char} {others : List (List Char)}
    (h : ∀ text ∈ first :: others, '\n' ∉ text) :
    cutParagraphs (['\n', '\n'].intercalate (first :: others)) = (first, others) := by
  induction others generalizing first with
  | nil =>
      have hfirst := cutParagraphs_append (h first (List.mem_singleton_self first)) []
      simpa [cutParagraphs] using hfirst
  | cons next others ih =>
      obtain ⟨hfirst, hothers⟩ := List.forall_mem_cons.mp h
      have hblank (rest : List Char) : cutParagraphs ('\n' :: '\n' :: rest) =
          ([], (cutParagraphs rest).1 :: (cutParagraphs rest).2) := cutParagraphs.eq_2 rest
      rw [List.intercalate_cons_cons, List.append_assoc, cutParagraphs_append hfirst,
        List.cons_append, List.cons_append, List.nil_append, hblank, ih hothers, List.append_nil]

theorem paragraphs_intercalate {texts : List String} (hne : texts ≠ [])
    (h : ∀ text ∈ texts, '\n' ∉ text.toList) : paragraphs ("\n\n".intercalate texts) = texts := by
  obtain ⟨first, others, rfl⟩ := List.exists_cons_of_ne_nil hne
  have hblank : "\n\n".toList = ['\n', '\n'] := by decide
  have hcut : cutParagraphs (['\n', '\n'].intercalate ((first :: others).map String.toList)) =
      (first.toList, others.map String.toList) :=
    cutParagraphs_intercalate (by simpa using h)
  rw [paragraphs, String.toList_intercalate, hblank, hcut]
  simp

end Text

namespace Diagnostic

section Records

open Json (Writes)

/-- The members of the object that the record of a diagnostic is. -/
def members (d : Diagnostic) : List (String × Json) :=
  [("code", .string d.code.name), ("code_value", .number d.code.number 0),
    ("message", .string d.message), ("severity", .string d.severity.name)]
    ++ (d.span.elim [] fun span =>
      [("source", .string span.source), ("line", span.line.elim .null fun line => .number line 0)])
    ++ ((shownHint d).map fun hint => ("hint", .string hint)).toList

/-- The members of a record write the members of its object. -/
theorem writesMembers_jsonMembers (d : Diagnostic) :
    Json.WritesMembers d.jsonMembers d.members := by
  have hstring (name text : String) : name = name ∧ Writes (jsonString text) (.string text) :=
    ⟨rfl, Json.writes_jsonString text⟩
  have hnumber (name : String) (n : Nat) : name = name ∧ Writes (toString n) (.number n 0) :=
    ⟨rfl, Json.writes_toString n⟩
  refine List.rel_append (List.rel_append ?_ ?_) ?_
  · exact .cons (hstring _ _) (.cons (hnumber _ _) (.cons (hstring _ _) (.cons (hstring _ _) .nil)))
  · rcases d.span with - | ⟨source, - | line⟩
    · exact .nil
    · exact .cons (hstring _ _) (.cons ⟨rfl, Json.writes_null⟩ .nil)
    · exact .cons (hstring _ _) (.cons (hnumber _ _) .nil)
  · rcases d.shownHint with - | hint
    · exact .nil
    · exact .cons (hstring _ _) .nil

theorem jsonMembers_ne_nil (d : Diagnostic) : d.jsonMembers ≠ [] := by
  rw [jsonMembers, List.cons_append, List.cons_append]
  exact List.cons_ne_nil _ _

theorem toList_jsonRecord (d : Diagnostic) : d.jsonRecord.toList =
    '\x7b' :: ((", ".intercalate (d.jsonMembers.map Json.memberText)).toList ++ ['\x7d']) := by
  have hbrace : "\x7b".toList = ['\x7b'] := by decide
  have hend : "\x7d".toList = ['\x7d'] := by decide
  rw [jsonRecord, String.toList_append, String.toList_append, hbrace, hend]
  rfl

/-- A record has more characters than members. -/
theorem length_jsonMembers_lt (d : Diagnostic) :
    d.jsonMembers.length < d.jsonRecord.toList.length := by
  have h := Json.length_le_intercalate d.jsonMembers
  rw [toList_jsonRecord, List.length_cons, List.length_append]
  omega

/-- A record is read as the object of its diagnostic. -/
theorem read?_jsonRecord (d : Diagnostic) : Json.read? d.jsonRecord = some (.object d.members) := by
  have hvalue := Json.readValue?_object (writesMembers_jsonMembers d) (jsonMembers_ne_nil d)
    (length_jsonMembers_lt d) []
  rw [← toList_jsonRecord] at hvalue
  rw [Json.read?, hvalue]
  rfl

/-- A record stands on one line. -/
theorem feed_not_mem_jsonRecord (d : Diagnostic) : '\n' ∉ d.jsonRecord.toList := by
  have h := Json.feed_not_mem_intercalate (writesMembers_jsonMembers d)
  rw [toList_jsonRecord, List.mem_cons, List.mem_append, not_or, not_or]
  exact ⟨by decide, h, by decide⟩

/-- A value tells what a diagnostic says: it has the code by its name and its number, the message
and the severity, the source and the line only with a place, and the hint only if it is not
empty. -/
structure IsRecord (value : Json) (d : Diagnostic) : Prop where
  code : value.get? "code" = some (.string d.code.name)
  number : value.get? "code_value" = some (.number d.code.number 0)
  message : value.get? "message" = some (.string d.message)
  severity : value.get? "severity" = some (.string d.severity.name)
  source : value.get? "source" = d.span.map fun span => .string span.source
  line : value.get? "line" = d.span.map fun span =>
    span.line.elim .null fun line => .number line 0
  hint : value.get? "hint" = if d.hint = some "" then none else d.hint.map .string

/-- The object of a record tells about its diagnostic. -/
theorem isRecord_members (d : Diagnostic) : IsRecord (.object d.members) d := by
  have hshown : (shownHint d).map Json.string =
      if d.hint = some "" then none else d.hint.map .string := by
    rw [shownHint]
    rcases d.hint with - | hint
    · rfl
    · by_cases hempty : hint = "" <;> simp [hempty, Option.filter]
  constructor
  case code => rfl
  case number => rfl
  case message => rfl
  case severity => rfl
  case source =>
    rw [members, Json.get?]
    rcases d.span with - | span <;> rcases d.shownHint with - | hint <;> rfl
  case line =>
    rw [members, Json.get?]
    rcases d.span with - | span <;> rcases d.shownHint with - | hint <;> rfl
  case hint =>
    rw [← hshown, members, Json.get?]
    rcases d.span with - | span <;> rcases d.shownHint with - | hint <;> rfl

/-- Records that are separated by empty lines are read back one by one: there are as many as there
are diagnostics, and each is the record of its diagnostic, whatever characters its texts have. -/
theorem paragraphs_renderAll_json (ds : List Diagnostic) (colour : Bool) (hne : ds ≠ []) :
    List.Forall₂ (fun record d => ∃ value, Json.read? record = some value ∧ IsRecord value d)
      (Text.paragraphs (renderAll ds .json colour)) ds := by
  have hparagraphs : Text.paragraphs (renderAll ds .json colour) = ds.map jsonRecord := by
    refine Text.paragraphs_intercalate (by simpa using hne) ?_
    intro text htext
    obtain ⟨d, -, rfl⟩ := List.mem_map.mp htext
    exact feed_not_mem_jsonRecord d
  rw [hparagraphs, List.forall₂_map_left_iff, List.forall₂_same]
  intro d _
  exact ⟨.object d.members, read?_jsonRecord d, isRecord_members d⟩

/-- Diagnostics whose texts have empty lines, quotes, backslashes and control characters. -/
def awkward : List Diagnostic :=
  [⟨.keyCollision, "one\n\ntwo \"three\" \\n", some ⟨"a\x7f\t\x01", none⟩, some "", .warning⟩,
    ⟨.catalogEmpty, "\"\x7d\n\n\x7b\"", some ⟨"\n\n", some 3⟩, some "\\", .error⟩,
    ⟨.sectionEmpty, "", none, none, .error⟩]

theorem paragraphs_renderAll_awkward : awkward.length = 3 ∧
    List.Forall₂ (fun record d => ∃ value, Json.read? record = some value ∧ IsRecord value d)
      (Text.paragraphs (renderAll awkward .json true)) awkward :=
  ⟨rfl, paragraphs_renderAll_json awkward true (List.cons_ne_nil _ _)⟩

end Records

end Diagnostic

end Phrasebook
