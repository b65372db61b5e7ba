import Mathlib.Data.List.TakeWhile
import Phrasebook.Proofs.Template
import Phrasebook.Proofs.Text.Case
import Phrasebook.Proofs.Text.Line
import Phrasebook.Proofs.Text.Pattern

/-!
# The language of directives

A directive is a word of a regular language: a percent sign, at most one flag, digits, a point with
digits or none, and a letter. No two of these parts can begin with the same character, so a text
begins with at most one directive, and reading finds it exactly if there is one.
-/

namespace Phrasebook

open Text

namespace Directive

/-- A text of one or more digits. -/
def IsDigits (digits : String) : Prop := digits ≠ "" ∧ ∀ c ∈ digits.toList, c.isDigit = true

/-- A directive whose flag is one of the three and whose width and precision are digits. -/
structure WellFormed (d : Directive) : Prop where
  flag : ∀ f, d.flag = some f → f = "-" ∨ f = "+" ∨ f = "#"
  width : ∀ w, d.width = some w → IsDigits w
  precision : ∀ p, d.precision = some p → IsDigits p

section Reading

variable {text rest : List Char} {d : Directive}

/-- The flag that is read is one of the three. -/
theorem flag_of_readFlag {f : String} (h : (readFlag text).1 = some f) :
    f = "-" ∨ f = "+" ∨ f = "#" := by
  cases text with
  | nil => cases h
  | cons c text =>
      rw [readFlag] at h
      split at h
      · rename_i hc
        obtain rfl := Option.some.inj h
        rcases hc with rfl | rfl | rfl <;> decide
      · cases h

/-- The digits that are read are digits, and there are some. -/
theorem isDigits_of_readDigits {digits : String} (h : (readDigits text).1 = some digits) :
    IsDigits digits := by
  have hchars : ∀ c ∈ text.takeWhile Char.isDigit, c.isDigit = true :=
    fun c hc => List.mem_takeWhile_imp hc
  simp only [readDigits] at h
  split at h
  · cases h
  · rename_i hne
    obtain rfl := Option.some.inj h
    refine ⟨?_, by rwa [String.toList_ofList]⟩
    simpa using hne

theorem isDigits_of_readPrecision {digits : String} (h : (readPrecision text).1 = some digits) :
    IsDigits digits := by
  unfold readPrecision at h
  split at h
  · split at h
    · rename_i digits' rest' hread
      obtain rfl := Option.some.inj h
      exact isDigits_of_readDigits (congrArg Prod.fst hread)
    · cases h
  · cases h

/-- A directive that is read is well formed. -/
theorem wellFormed_of_read? (h : read? text = some (d, rest)) : d.WellFormed := by
  simp only [read?] at h
  split at h
  · cases h
  · obtain ⟨conversion, -, hd⟩ := Option.map_eq_some_iff.mp h
    obtain ⟨rfl, -⟩ := Prod.mk.inj hd
    exact ⟨fun f => flag_of_readFlag, fun w => isDigits_of_readDigits,
      fun p => isDigits_of_readPrecision⟩

/-- A flag, or none, is read in front of what is no flag. -/
private theorem readFlag_append {flag : Option String}
    (h : ∀ f, flag = some f → f = "-" ∨ f = "+" ∨ f = "#")
    (hrest : ∀ c, rest.head? = some c → ¬ (c = '-' ∨ c = '+' ∨ c = '#')) :
    readFlag ((flag.getD "").toList ++ rest) = (flag, rest) := by
  cases flag with
  | none =>
      cases rest with
      | nil => rfl
      | cons c rest =>
          change readFlag (c :: rest) = _
          rw [readFlag, if_neg (hrest c rfl)]
  | some f => rcases h f rfl with rfl | rfl | rfl <;> rfl

/-- Digits, or none, are read in front of what is no digit. -/
private theorem readDigits_append (digits : Option String) (h : ∀ w, digits = some w → IsDigits w)
    (hrest : ∀ c, rest.head? = some c → c.isDigit = false) :
    readDigits ((digits.getD "").toList ++ rest) = (digits, rest) := by
  have hrun : ∀ c ∈ (digits.getD "").toList, c.isDigit = true := by
    cases digits with
    | none => simp
    | some w => exact (h w rfl).2
  simp only [readDigits, takeWhile_append_of_head? hrun hrest, dropWhile_append_of_head? hrun hrest]
  cases digits with
  | none => rfl
  | some w =>
      have hne : w.toList ≠ [] := by simpa using (h w rfl).1
      simp [hne]

/-- The letter of a conversion begins none of the other parts. -/
theorem letter_starts_nothing (conversion : Conversion) :
    conversion.letter.isDigit = false ∧ conversion.letter ≠ '.' ∧
      ¬ (conversion.letter = '-' ∨ conversion.letter = '+' ∨ conversion.letter = '#') := by
  cases conversion <;> decide

/-- The part of a directive from its precision on, and what follows. -/
def afterWidth (d : Directive) (rest : List Char) : List Char :=
  d.precisionText.toList ++ d.conversion.letter :: rest

/-- The part of a directive from its width on, and what follows. -/
def afterFlag (d : Directive) (rest : List Char) : List Char :=
  (d.width.getD "").toList ++ d.afterWidth rest

theorem toList_source_append (d : Directive) (rest : List Char) :
    d.source.toList ++ rest = '%' :: ((d.flag.getD "").toList ++ d.afterFlag rest) := by
  simp [source, afterFlag, afterWidth, Char.toString]

/-- Behind the width comes a point or the letter. -/
theorem head?_afterWidth {c : Char} (h : (d.afterWidth rest).head? = some c) :
    c = '.' ∨ c = d.conversion.letter := by
  cases hp : d.precision with
  | none => exact .inr (by simpa [afterWidth, precisionText, hp] using h.symm)
  | some p => exact .inl (by simpa [afterWidth, precisionText, hp] using h.symm)

/-- Behind the flag comes a digit, a point or the letter. -/
private theorem head?_afterFlag (hd : d.WellFormed) {c : Char}
    (h : (d.afterFlag rest).head? = some c) :
    c.isDigit = true ∨ c = '.' ∨ c = d.conversion.letter := by
  cases hw : d.width with
  | none => exact .inr (head?_afterWidth (by simpa [afterFlag, hw] using h))
  | some w =>
      obtain ⟨hne, hchars⟩ := hd.width w hw
      rw [afterFlag, hw, Option.getD_some,
        List.head?_append_of_ne_nil _ (by simpa using hne)] at h
      exact .inl (hchars c (List.mem_of_mem_head? h))

/-- A precision, or none, is read in front of a letter. -/
private theorem readPrecision_afterWidth (hd : d.WellFormed) :
    readPrecision (d.afterWidth rest) = (d.precision, d.conversion.letter :: rest) := by
  obtain ⟨hdigit, hpoint, -⟩ := letter_starts_nothing d.conversion
  cases hp : d.precision with
  | none =>
      simp only [afterWidth, precisionText, hp, String.toList_empty, List.nil_append]
      rw [readPrecision]
      rintro rest' he
      exact hpoint (List.cons.inj he).1
  | some p =>
      have hread : readDigits (p.toList ++ d.conversion.letter :: rest) =
          (some p, d.conversion.letter :: rest) := by
        refine readDigits_append (some p) (fun w hw => hd.precision w (hp.trans hw)) fun c hc => ?_
        obtain rfl := Option.some.inj hc
        exact hdigit
      simp [afterWidth, precisionText, hp, readPrecision, hread]

/-- A width, or none, is read in front of the precision and the letter. -/
private theorem readDigits_afterFlag (hd : d.WellFormed) :
    readDigits (d.afterFlag rest) = (d.width, d.afterWidth rest) := by
  refine readDigits_append d.width hd.width fun c hc => ?_
  rcases head?_afterWidth hc with rfl | rfl
  · rfl
  · exact (letter_starts_nothing d.conversion).1

/-- A flag, or none, is read in front of the width, the precision and the letter. -/
theorem readFlag_source (hd : d.WellFormed) :
    readFlag ((d.flag.getD "").toList ++ d.afterFlag rest) = (d.flag, d.afterFlag rest) := by
  refine readFlag_append hd.flag fun c hc hflag => ?_
  rcases head?_afterFlag hd hc with hdigit | rfl | rfl
  · rcases hflag with rfl | rfl | rfl <;> cases hdigit
  · exact absurd hflag (by decide)
  · exact (letter_starts_nothing d.conversion).2.2 hflag

/-- A well-formed directive is read whatever follows it. -/
theorem read?_of_wellFormed (hd : d.WellFormed) (htext : d.source.toList ++ rest = '%' :: text) :
    read? text = some (d, rest) := by
  have hletter : Conversion.ofLetter? d.conversion.letter = some d.conversion := by
    cases d.conversion <;> rfl
  rw [toList_source_append] at htext
  rw [← (List.cons.inj htext).2]
  simp only [read?, readFlag_source hd, readDigits_afterFlag hd, readPrecision_afterWidth hd,
    hletter]
  rfl

/-- A directive is read exactly if it stands at the start of the text. -/
theorem read?_eq_some_iff : read? text = some (d, rest) ↔
    d.WellFormed ∧ d.source.toList ++ rest = '%' :: text :=
  ⟨fun h => ⟨wellFormed_of_read? h, append_of_read? h⟩,
    fun ⟨hd, htext⟩ => read?_of_wellFormed hd htext⟩

end Reading

section Pattern

open RegularExpression

/-- A digit. -/
def digit : RegularExpression Char := oneOf "0123456789".toList

/-- The pattern of directives: `%[-+#]?[0-9]*(\.[0-9]+)?[dis@xXf]`. -/
def pattern : RegularExpression Char :=
  char '%' * ((1 + oneOf "-+#".toList) * (digit.star * ((1 + char '.' * (digit * digit.star)) *
    oneOf "dis@xXf".toList)))

/-- The ten digits are the characters that count as such. -/
theorem isDigit_iff {c : Char} : c.isDigit = true ↔ c ∈ "0123456789".toList := by
  constructor
  · intro h
    have hbasic : IsBasic c := by
      rw [Char.isDigit, Bool.and_eq_true, decide_eq_true_eq, decide_eq_true_eq] at h
      have hnine : c.toNat ≤ 57 := UInt32.le_iff_toNat_le.mp h.2
      rw [IsBasic]
      omega
    revert h
    exact IsBasic.of_forall (p := fun c => c.isDigit = true → c ∈ "0123456789".toList)
      (by decide +kernel) hbasic
  · intro h
    have hall : "0123456789".toList.all Char.isDigit = true := by decide
    exact List.all_eq_true.mp hall c h

/-- The words of digits. -/
theorem mem_star_digit {word : List Char} :
    word ∈ digit.star.matches' ↔ ∀ c ∈ word, c.isDigit = true := by
  simp only [digit, mem_star_oneOf, isDigit_iff]

/-- The flags, with none among them. -/
theorem mem_flags {word : List Char} : word ∈ (1 + oneOf "-+#".toList).matches' ↔
    ∃ flag : Option String, (∀ f, flag = some f → f = "-" ∨ f = "+" ∨ f = "#") ∧
      (flag.getD "").toList = word := by
  rw [matches'_add, Language.mem_add, matches'_epsilon, Language.mem_one, mem_oneOf]
  constructor
  · rintro (rfl | ⟨c, hc, rfl⟩)
    · exact ⟨none, nofun, rfl⟩
    · refine ⟨some (String.singleton c), ?_, by simp⟩
      have hc : c = '-' ∨ c = '+' ∨ c = '#' := by simpa using hc
      rintro f ⟨⟩
      rcases hc with rfl | rfl | rfl <;> decide
  · rintro ⟨flag, hflag, rfl⟩
    cases flag with
    | none => exact .inl rfl
    | some f =>
        right
        rcases hflag f rfl with rfl | rfl | rfl
        · exact ⟨'-', by decide, rfl⟩
        · exact ⟨'+', by decide, rfl⟩
        · exact ⟨'#', by decide, rfl⟩

/-- The widths, with none among them. -/
theorem mem_widths {word : List Char} : word ∈ digit.star.matches' ↔
    ∃ width : Option String, (∀ w, width = some w → IsDigits w) ∧
      (width.getD "").toList = word := by
  rw [mem_star_digit]
  constructor
  · intro h
    by_cases hne : word = []
    · exact ⟨none, nofun, hne.symm⟩
    · refine ⟨some (String.ofList word), ?_, by simp⟩
      rintro w ⟨⟩
      exact ⟨by simpa using hne, by simpa using h⟩
  · rintro ⟨width, hwidth, rfl⟩
    cases width with
    | none => simp
    | some w => exact (hwidth w rfl).2

/-- The precisions with their point, with none among them. -/
theorem mem_precisions {word : List Char} :
    word ∈ (1 + char '.' * (digit * digit.star)).matches' ↔
      ∃ precision : Option String, (∀ p, precision = some p → IsDigits p) ∧
        ∀ conversion flag width,
          (precisionText ⟨conversion, flag, width, precision⟩).toList = word := by
  simp only [matches'_add, Language.mem_add, matches'_epsilon, Language.mem_one, matches'_mul,
    Language.mem_mul, mem_char]
  constructor
  · rintro (rfl | ⟨_, rfl, _, ⟨first, hfirst, digits, hdigits, rfl⟩, rfl⟩)
    · exact ⟨none, nofun, fun _ _ _ => rfl⟩
    · obtain ⟨c, hc, rfl⟩ := mem_oneOf.mp hfirst
      refine ⟨some (String.ofList (c :: digits)), ?_, fun _ _ _ => by simp [precisionText]⟩
      rintro p ⟨⟩
      refine ⟨by simp, ?_⟩
      rw [String.toList_ofList]
      exact List.forall_mem_cons.mpr ⟨isDigit_iff.mpr hc, mem_star_digit.mp hdigits⟩
  · rintro ⟨precision, hprecision, hword⟩
    obtain rfl := hword .decimal none none
    cases precision with
    | none => exact .inl rfl
    | some p =>
        obtain ⟨hne, hchars⟩ := hprecision p rfl
        obtain ⟨c, digits, hp⟩ := List.exists_cons_of_ne_nil (l := p.toList) (by simpa using hne)
        rw [hp, List.forall_mem_cons] at hchars
        refine .inr ⟨['.'], rfl, c :: digits, ⟨[c], ?_, digits, ?_, rfl⟩, ?_⟩
        · exact mem_oneOf.mpr ⟨c, isDigit_iff.mp hchars.1, rfl⟩
        · exact mem_star_digit.mpr hchars.2
        · simp [precisionText, hp]

/-- The letters. -/
theorem mem_letters {word : List Char} : word ∈ (oneOf "dis@xXf".toList).matches' ↔
    ∃ conversion : Conversion, [conversion.letter] = word := by
  rw [mem_oneOf]
  constructor
  · rintro ⟨c, hc, rfl⟩
    have hc : c = 'd' ∨ c = 'i' ∨ c = 's' ∨ c = '@' ∨ c = 'x' ∨ c = 'X' ∨ c = 'f' := by
      simpa using hc
    rcases hc with rfl | rfl | rfl | rfl | rfl | rfl | rfl
    · exact ⟨.decimal, rfl⟩
    · exact ⟨.integer, rfl⟩
    · exact ⟨.string, rfl⟩
    · exact ⟨.object, rfl⟩
    · exact ⟨.hexLower, rfl⟩
    · exact ⟨.hexUpper, rfl⟩
    · exact ⟨.float, rfl⟩
  · rintro ⟨conversion, rfl⟩
    exact ⟨conversion.letter, by cases conversion <;> decide, rfl⟩

/-- The words of the pattern are the texts of well-formed directives. -/
theorem mem_pattern {word : List Char} :
    word ∈ pattern.matches' ↔ ∃ d : Directive, d.WellFormed ∧ d.source.toList = word := by
  have hsource (d : Directive) : d.source.toList = ['%'] ++ ((d.flag.getD "").toList ++
      ((d.width.getD "").toList ++ (d.precisionText.toList ++ [d.conversion.letter]))) := by
    simpa [afterFlag, afterWidth] using toList_source_append d []
  simp only [pattern, matches'_mul, Language.mem_mul, mem_char, mem_flags, mem_widths,
    mem_precisions, mem_letters]
  constructor
  · rintro ⟨_, rfl, _, ⟨_, ⟨flag, hflag, rfl⟩, _, ⟨_, ⟨width, hwidth, rfl⟩, _,
      ⟨_, ⟨precision, hprecision, hpoint⟩, _, ⟨conversion, rfl⟩, rfl⟩, rfl⟩, rfl⟩, rfl⟩
    refine ⟨⟨conversion, flag, width, precision⟩, ⟨hflag, hwidth, hprecision⟩, ?_⟩
    rw [hsource, hpoint]
  · rintro ⟨d, hd, rfl⟩
    rw [hsource]
    exact ⟨_, rfl, _, ⟨_, ⟨d.flag, hd.flag, rfl⟩, _, ⟨_, ⟨d.width, hd.width, rfl⟩, _,
      ⟨_, ⟨d.precision, hd.precision, fun _ _ _ => rfl⟩, _, ⟨d.conversion, rfl⟩, rfl⟩, rfl⟩, rfl⟩,
      rfl⟩

end Pattern

end Directive

end Phrasebook
