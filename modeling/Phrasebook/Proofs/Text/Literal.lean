import Mathlib.Data.Nat.Digits.Lemmas
import Phrasebook.Text.Literal

/-!
# Literals denote their texts

A literal is read as a reader of generated code does it: the first mark opens it, a backslash takes
the next character with it, the next mark of the same kind closes it, and the characters between
are replaced by what they stand for. Reading the literal of a text, whatever follows it, gives the
text back.
-/

namespace Phrasebook.Text

/-- The two marks that can stand around a literal. -/
def IsMark (mark : Char) : Prop := mark = apostrophe ∨ mark = quotationMark

instance (mark : Char) : Decidable (IsMark mark) := inferInstanceAs (Decidable (_ ∨ _))

/-- The body of a literal behind its opening mark, and what follows the closing one. -/
def scanBody (mark : Char) : List Char → Option (List Char × List Char)
  | [] => none
  | '\\' :: c :: rest => (scanBody mark rest).map fun (body, after) => ('\\' :: c :: body, after)
  | c :: rest =>
    if c = mark then some ([], rest)
    else if c = '\n' ∨ c = '\r' then none
    else (scanBody mark rest).map fun (body, after) => (c :: body, after)

/-- The value of the literal at the start of a text, and what follows it. -/
def readLiteral? : List Char → Option (List Char × List Char)
  | [] => none
  | mark :: rest =>
    if IsMark mark then do
      let (body, after) ← scanBody mark rest
      return (← unescape? body, after)
    else none

/-- A character that stands for itself in a literal. -/
def IsPlain (mark c : Char) : Prop := c ≠ '\\' ∧ c ≠ mark ∧ c ≠ '\n' ∧ c ≠ '\r'

instance (mark c : Char) : Decidable (IsPlain mark c) :=
  inferInstanceAs (Decidable (_ ∧ _ ∧ _ ∧ _))

/-- Characters that stand in a body as they are reach the scan as they are. -/
def Scans (mark : Char) (chars : List Char) : Prop :=
  ∀ rest, scanBody mark (chars ++ rest) =
    (scanBody mark rest).map fun (body, after) => (chars ++ body, after)

section Scanning

variable {mark : Char}

theorem scanBody_mark (hmark : IsMark mark) (after : List Char) :
    scanBody mark (mark :: after) = some ([], after) := by
  rcases hmark with rfl | rfl <;> rw [scanBody] <;> simp [apostrophe, quotationMark]

theorem Scans.nil : Scans mark [] := by
  intro rest
  simp

theorem Scans.append {l l' : List Char} (h : Scans mark l) (h' : Scans mark l') :
    Scans mark (l ++ l') := by
  intro rest
  rw [List.append_assoc, h, h', Option.map_map]
  simp [Function.comp_def]

theorem Scans.plain {c : Char} (h : IsPlain mark c) : Scans mark [c] := by
  obtain ⟨hslash, hmark, hn, hr⟩ := h
  intro rest
  rw [List.singleton_append, scanBody]
  · simp [hmark, hn, hr]
  · rintro d rest' rfl
    exact absurd rfl hslash

theorem Scans.escaped (c : Char) : Scans mark ['\\', c] := by
  intro rest
  simp [scanBody]

theorem Scans.of_plain {l : List Char} (h : ∀ c ∈ l, IsPlain mark c) : Scans mark l := by
  induction l with
  | nil => exact .nil
  | cons c rest ih =>
      obtain ⟨hc, hrest⟩ := List.forall_mem_cons.mp h
      exact (Scans.plain hc).append (ih hrest)

end Scanning

section Digits

theorem mem_hexDigits {width n : Nat} {c : Char} (h : c ∈ hexDigits width n) :
    ∃ d < 16, c = Nat.digitChar d := by
  induction width generalizing n with
  | zero => simp [hexDigits] at h
  | succ width ih =>
      rcases List.mem_append.mp h with h | h
      · exact ih h
      · exact ⟨n % 16, Nat.mod_lt _ (by decide), List.mem_singleton.mp h⟩

/-- Hexadecimal digits stand for themselves. -/
theorem isPlain_digitChar {mark : Char} (hmark : IsMark mark) :
    ∀ d < 16, IsPlain mark (Nat.digitChar d) := by
  rcases hmark with rfl | rfl <;> decide

theorem hexValue?_digitChar : ∀ d < 16, hexValue? (Nat.digitChar d) = some d := by
  decide

private theorem readHex?_append (digits : List Char) (c : Char) :
    readHex? (digits ++ [c]) =
      (readHex? digits).bind fun n => (hexValue? c).map (n * 16 + ·) := by
  simp [readHex?, List.foldlM_append]

/-- Hexadecimal digits are read as the number, as far as the digits reach. -/
theorem readHex?_hexDigits (width n : Nat) :
    readHex? (hexDigits width n) = some (n % 16 ^ width) := by
  induction width generalizing n with
  | zero => simp [hexDigits, readHex?, Nat.mod_one]
  | succ width ih =>
      rw [hexDigits, readHex?_append, ih, hexValue?_digitChar _ (Nat.mod_lt n (by decide)),
        Nat.pow_succ, Nat.mul_comm (16 ^ width) 16, Nat.mod_mul]
      simp only [Option.bind_some, Option.map_some, Option.some.injEq]
      omega

/-- The code point of a character is read as the character. -/
theorem bind_charAt?_readHex? (width : Nat) {c : Char} (h : c.toNat < 16 ^ width) :
    (readHex? (hexDigits width c.toNat)).bind charAt? = some c := by
  have hvalid : c.toNat.isValidChar := c.valid
  rw [readHex?_hexDigits, Nat.mod_eq_of_lt h, Option.bind_some, charAt?, if_pos hvalid,
    Char.ofNat_toNat]

end Digits

section Escaping

/-- Characters that stand in a body for a character are read as the character. -/
def Denotes (chars : List Char) (c : Char) : Prop :=
  ∀ rest, unescape? (chars ++ rest) = (unescape? rest).map (c :: ·)

private theorem denotes_self {c : Char} (h : c ≠ '\\') : Denotes [c] c := by
  intro rest
  rw [List.singleton_append, unescape?]
  all_goals
    intros
    simp_all

private theorem denotes_escaped {c : Char} (h : c = '\\' ∨ IsMark c) : Denotes ['\\', c] c := by
  intro rest
  rcases h with rfl | rfl | rfl <;> simp [unescape?, apostrophe, quotationMark]

/-- A character is read back from its code point. -/
theorem denotes_escapeCode (c : Char) : Denotes (escapeCode c) c := by
  intro rest
  have hc : c.toNat < 16 ^ 8 := by
    have hvalid : c.toNat.isValidChar := c.valid
    rw [Nat.isValidChar] at hvalid
    omega
  unfold escapeCode
  split
  · have h := bind_charAt?_readHex? 2 (c := c) (by omega)
    simp only [hexDigits, List.nil_append, List.cons_append] at h ⊢
    rw [unescape?, h]
    cases unescape? rest <;> rfl
  · split
    · have h := bind_charAt?_readHex? 4 (c := c) (by omega)
      simp only [hexDigits, List.nil_append, List.cons_append] at h ⊢
      rw [unescape?, h]
      cases unescape? rest <;> rfl
    · have h := bind_charAt?_readHex? 8 hc
      simp only [hexDigits, List.nil_append, List.cons_append] at h ⊢
      rw [unescape?, h]
      cases unescape? rest <;> rfl

/-- A character is read back from its place in a body. -/
theorem denotes_escapeChar {mark : Char} (hmark : IsMark mark) (c : Char) :
    Denotes (escapeChar mark c) c := by
  unfold escapeChar
  split_ifs with hescaped hn hr ht hprintable
  · refine denotes_escaped ?_
    rcases hescaped with rfl | rfl
    · exact .inr hmark
    · exact .inl rfl
  · exact fun rest => by simp [unescape?, hn, apostrophe, quotationMark, controlOf?]
  · exact fun rest => by simp [unescape?, hr, apostrophe, quotationMark, controlOf?]
  · exact fun rest => by simp [unescape?, ht, apostrophe, quotationMark, controlOf?]
  · exact denotes_self fun h => hescaped (.inr h)
  · exact denotes_escapeCode c

/-- A character reaches the scan of a body as it stands there. -/
theorem scans_escapeChar {mark : Char} (hmark : IsMark mark) (c : Char) :
    Scans mark (escapeChar mark c) := by
  have hdigits (kind : Char) (width n : Nat) : Scans mark ('\\' :: kind :: hexDigits width n) := by
    refine (Scans.escaped kind).append (.of_plain fun d hd => ?_)
    obtain ⟨n, hn, rfl⟩ := mem_hexDigits hd
    exact isPlain_digitChar hmark n hn
  unfold escapeChar
  split_ifs with hescaped hn hr ht hprintable
  · exact .escaped c
  · exact .escaped 'n'
  · exact .escaped 'r'
  · exact .escaped 't'
  · rw [not_or] at hescaped
    exact .plain ⟨hescaped.2, hescaped.1, hn, hr⟩
  · unfold escapeCode
    split_ifs <;> exact hdigits _ _ _

/-- Every text is read back from its place in a body. -/
theorem unescape?_escape {mark : Char} (hmark : IsMark mark) (text : List Char) :
    unescape? (escape mark text) = some text := by
  induction text with
  | nil => simp [escape, unescape?]
  | cons c rest ih =>
      rw [escape, List.flatMap_cons, denotes_escapeChar hmark c, ← escape, ih]
      rfl

/-- Every text reaches the scan of a body as it stands there. -/
theorem scans_escape {mark : Char} (hmark : IsMark mark) (text : List Char) :
    Scans mark (escape mark text) := by
  induction text with
  | nil => exact .nil
  | cons c rest ih => exact (scans_escapeChar hmark c).append ih

end Escaping

theorem isMark_markFor (text : List Char) : IsMark (markFor text) := by
  unfold markFor
  split_ifs
  · exact .inr rfl
  · exact .inl rfl

theorem isMark_literalMarkFor (text : List Char) : IsMark (literalMarkFor text) := by
  unfold literalMarkFor
  split_ifs
  · exact .inr rfl
  · exact isMark_markFor text

/-- What stands between two marks denotes its text and ends with the second mark, whatever
follows. -/
theorem readLiteral?_enclose {mark : Char} (hmark : IsMark mark) (text after : List Char) :
    readLiteral? (enclose mark text ++ after) = some (text, after) := by
  have hscan := scans_escape hmark text (mark :: after)
  rw [scanBody_mark hmark] at hscan
  rw [enclose, List.cons_append, List.append_assoc, List.singleton_append, readLiteral?,
    if_pos hmark, hscan]
  simp [unescape?_escape hmark]

/-- A literal denotes its text and ends with its last character, whatever follows. -/
theorem readLiteral?_literal (text : String) (after : List Char) :
    readLiteral? ((literal text).toList ++ after) = some (text.toList, after) := by
  rw [literal, String.toList_ofList]
  exact readLiteral?_enclose (isMark_literalMarkFor text.toList) text.toList after

/-- A quoted text denotes its text and ends with its last character, whatever follows. -/
theorem readLiteral?_quoted (text : String) (after : List Char) :
    readLiteral? ((quoted text).toList ++ after) = some (text.toList, after) := by
  rw [quoted, String.toList_ofList]
  exact readLiteral?_enclose (isMark_markFor text.toList) text.toList after

/-- A quoted text determines the text. -/
theorem quoted_inj {text text' : String} : quoted text = quoted text' ↔ text = text' := by
  refine ⟨fun h => ?_, fun h => by rw [h]⟩
  have hread := readLiteral?_quoted text []
  rw [h, readLiteral?_quoted] at hread
  exact String.toList_inj.mp (Prod.mk.inj (Option.some.inj hread)).1.symm

/-- A literal alone denotes its text. -/
theorem readLiteral?_literal_alone (text : String) :
    readLiteral? (literal text).toList = some (text.toList, []) := by
  have hliteral := readLiteral?_literal text []
  rwa [List.append_nil] at hliteral

section Length

private theorem length_lt_of_scanBody {mark : Char} {text body after : List Char}
    (h : scanBody mark text = some (body, after)) : after.length < text.length := by
  fun_induction scanBody mark text generalizing body with
  | case1 => cases h
  | case2 c rest ih =>
      obtain ⟨⟨body', after'⟩, hrest, he⟩ := Option.map_eq_some_iff.mp h
      obtain ⟨rfl, rfl⟩ := Prod.mk.inj he
      have hlength := ih hrest
      simp only [List.length_cons]
      omega
  | case3 rest =>
      obtain ⟨rfl, rfl⟩ := Prod.mk.inj (Option.some.inj h)
      simp
  | case4 => cases h
  | case5 c rest _ _ _ ih =>
      obtain ⟨⟨body', after'⟩, hrest, he⟩ := Option.map_eq_some_iff.mp h
      obtain ⟨rfl, rfl⟩ := Prod.mk.inj he
      have hlength := ih hrest
      simp only [List.length_cons]
      omega

/-- What follows a literal is shorter than the text. -/
theorem length_lt_of_readLiteral? {text value after : List Char}
    (h : readLiteral? text = some (value, after)) : after.length < text.length := by
  cases text with
  | nil => cases h
  | cons mark rest =>
      rw [readLiteral?] at h
      split at h
      · obtain ⟨⟨body, after'⟩, hscan, h⟩ := Option.bind_eq_some_iff.mp h
        obtain ⟨value', -, h⟩ := Option.bind_eq_some_iff.mp h
        obtain ⟨rfl, rfl⟩ := Prod.mk.inj (Option.some.inj h)
        have hlength := length_lt_of_scanBody hscan
        rw [List.length_cons]
        omega
      · cases h

end Length

end Phrasebook.Text
