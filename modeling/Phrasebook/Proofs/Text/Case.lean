import Mathlib.Data.List.Basic
import Phrasebook.Text.CaseMapping

/-!
# The case of Basic Latin

The mappings to lower and upper case treat a character of Basic Latin alone, whatever stands around
it. A text of Basic Latin without capitals is its own lower case, and the lower case of its upper
case.
-/

namespace Phrasebook.Text

/-- A character of Basic Latin. -/
def IsBasic (c : Char) : Prop := c.toNat < 128

/-- A text of Basic Latin without capitals. -/
def IsSmall (text : String) : Prop := ∀ c ∈ text.toList, IsBasic c ∧ c.toLower = c

instance (text : String) : Decidable (IsSmall text) :=
  List.decidableBAll (fun c : Char => c.toNat < 128 ∧ c.toLower = c) text.toList

section Characters

/-- What holds at the first code points holds of the characters of Basic Latin. -/
theorem IsBasic.of_forall {p : Char → Prop} (h : ∀ n < 128, p (Char.ofNat n)) {c : Char}
    (hc : IsBasic c) : p c := by
  have hn := h c.toNat hc
  rwa [Char.ofNat_toNat] at hn

variable {c : Char}

theorem lowerChar_of_isBasic (hc : IsBasic c) : lowerChar c = [c.toLower] :=
  IsBasic.of_forall (p := fun c => lowerChar c = [c.toLower]) (by decide +kernel) hc

theorem upperChar_of_isBasic (hc : IsBasic c) : upperChar c = [c.toUpper] :=
  IsBasic.of_forall (p := fun c => upperChar c = [c.toUpper]) (by decide +kernel) hc

theorem IsBasic.toLower (hc : IsBasic c) : IsBasic c.toLower :=
  IsBasic.of_forall (p := fun c => IsBasic c.toLower) (by unfold IsBasic; decide) hc

theorem IsBasic.toUpper (hc : IsBasic c) : IsBasic c.toUpper :=
  IsBasic.of_forall (p := fun c => IsBasic c.toUpper) (by unfold IsBasic; decide) hc

theorem toLower_toLower (hc : IsBasic c) : c.toLower.toLower = c.toLower :=
  IsBasic.of_forall (p := fun c => c.toLower.toLower = c.toLower) (by decide) hc

private theorem toLower_toUpper (hc : IsBasic c) : c.toUpper.toLower = c.toLower :=
  IsBasic.of_forall (p := fun c => c.toUpper.toLower = c.toLower) (by decide) hc

end Characters

section Texts

/-- No character of Basic Latin is the capital sigma, the only one whose lower case depends on its
surroundings. -/
theorem lowerAfter_of_isBasic (before : List Char) {text : List Char}
    (h : ∀ c ∈ text, IsBasic c) : lowerAfter before text = text.map Char.toLower := by
  induction text generalizing before with
  | nil => rfl
  | cons c rest ih =>
      obtain ⟨hc, hrest⟩ := List.forall_mem_cons.mp h
      have hsigma : c ≠ 'Σ' := by
        rintro rfl
        exact absurd hc (by unfold IsBasic; decide)
      rw [lowerAfter, if_neg hsigma, lowerChar_of_isBasic hc, ih (c :: before) hrest]
      rfl

theorem upperChars_of_isBasic {text : List Char} (h : ∀ c ∈ text, IsBasic c) :
    upperChars text = text.map Char.toUpper := by
  induction text with
  | nil => rfl
  | cons c rest ih =>
      obtain ⟨hc, hrest⟩ := List.forall_mem_cons.mp h
      rw [upperChars, List.flatMap_cons, upperChar_of_isBasic hc, ← upperChars, ih hrest]
      rfl

variable {text text' : String}

theorem IsSmall.isBasic (h : IsSmall text) : ∀ c ∈ text.toList, IsBasic c := fun c hc => (h c hc).1

theorem IsSmall.map_toLower (h : IsSmall text) : text.toList.map Char.toLower = text.toList := by
  rw [List.map_congr_left fun c hc => (h c hc).2]
  simp

theorem IsSmall.append (h : IsSmall text) (h' : IsSmall text') : IsSmall (text ++ text') := by
  intro c hc
  rw [String.toList_append, List.mem_append] at hc
  rcases hc with hc | hc
  · exact h c hc
  · exact h' c hc

/-- A text of Basic Latin in lower case is small. -/
theorem isSmall_map_toLower {chars : List Char} (h : ∀ c ∈ chars, IsBasic c) :
    IsSmall (String.ofList (chars.map Char.toLower)) := by
  intro c hc
  rw [String.toList_ofList] at hc
  obtain ⟨d, hd, rfl⟩ := List.mem_map.mp hc
  exact ⟨(h d hd).toLower, toLower_toLower (h d hd)⟩

/-- The lower case of a small text followed by the upper case of another one. -/
theorem lower_append_upper (h : IsSmall text) (h' : IsSmall text') :
    lower (text ++ upper text') = text ++ text' := by
  have hupper : (upper text').toList = text'.toList.map Char.toUpper := by
    rw [upper, String.toList_ofList, upperChars_of_isBasic h'.isBasic]
  have hbasic : ∀ c ∈ (text ++ upper text').toList, IsBasic c := by
    intro c hc
    rw [String.toList_append, hupper, List.mem_append, List.mem_map] at hc
    rcases hc with hc | ⟨d, hd, rfl⟩
    · exact h.isBasic c hc
    · exact (h'.isBasic d hd).toUpper
  have hback : (text'.toList.map Char.toUpper).map Char.toLower = text'.toList := by
    rw [List.map_map]
    exact (List.map_congr_left fun c hc => toLower_toUpper (h'.isBasic c hc)).trans h'.map_toLower
  rw [lower, lowerChars, lowerAfter_of_isBasic [] hbasic, String.toList_append, hupper,
    List.map_append, h.map_toLower, hback, ← String.toList_append, String.ofList_toList]

/-- A small text is its own lower case. -/
theorem lower_of_isSmall (h : IsSmall text) : lower text = text := by
  have hempty : upper "" = "" := rfl
  have hlower := lower_append_upper h (show IsSmall "" by decide)
  rwa [hempty, String.append_empty] at hlower

end Texts

section Images

/-- The counterparts of a run are small letters of Basic Latin, or characters outside of it. -/
def CaseRun.isSettled (run : CaseRun) : Bool :=
  let first := run.first + run.offset
  let last := run.last + run.offset
  (0x61 ≤ first && last ≤ 0x7a) || (0x80 ≤ first && last < 0xd800) ||
    (0xe000 ≤ first && last < 0x110000)

theorem CaseRun.isLower_apply {run : CaseRun} {n : Nat} (hrun : run.isSettled = true)
    (hn : run.contains n = true) (hbasic : IsBasic (run.apply n)) :
    (run.apply n).isLower = true := by
  simp only [CaseRun.contains, Bool.and_eq_true, decide_eq_true_eq] at hn
  simp only [CaseRun.isSettled, Bool.or_eq_true, Bool.and_eq_true, decide_eq_true_eq] at hrun
  obtain ⟨⟨hfirst, hlast⟩, -⟩ := hn
  have hvalid : ((n : Int) + run.offset).toNat.isValidChar := by
    rw [Nat.isValidChar]
    omega
  have hcode : (run.apply n).toNat = ((n : Int) + run.offset).toNat := by
    rw [CaseRun.apply, Char.ofNat, dif_pos hvalid]
    rfl
  rw [IsBasic, hcode] at hbasic
  have hlow : 97 ≤ (run.apply n).toNat := by omega
  have hhigh : (run.apply n).toNat ≤ 122 := by omega
  exact Bool.and_eq_true_iff.mpr ⟨decide_eq_true hlow, decide_eq_true hhigh⟩

/-- A counterpart comes from a run. -/
private theorem CaseRun.exists_of_lookup {runs : List CaseRun} {n : Nat} {d : Char}
    (h : CaseRun.lookup runs n = some d) :
    ∃ run ∈ runs, run.contains n = true ∧ d = run.apply n := by
  induction runs with
  | nil => cases h
  | cons run rest ih =>
      rw [CaseRun.lookup] at h
      split at h
      · cases h
      · split at h
        · rename_i hn
          exact ⟨run, List.mem_cons_self .., hn, (Option.some.inj h).symm⟩
        · obtain ⟨run', hrun', hn⟩ := ih h
          exact ⟨run', List.mem_cons_of_mem run hrun', hn⟩

/-- In Basic Latin, the lower case of a character is a small letter or the character itself, which
is then no capital. -/
theorem isLower_or_eq_of_mem_lowerChar {c d : Char} (hd : IsBasic d) (h : d ∈ lowerChar c) :
    d.isLower = true ∨ d = c ∧ c.isUpper = false := by
  by_cases hc : IsBasic c
  · rw [lowerChar_of_isBasic hc, List.mem_singleton] at h
    subst h
    exact IsBasic.of_forall (p := fun c => c.toLower.isLower = true ∨
      c.toLower = c ∧ c.isUpper = false) (by decide) hc
  · have hsettled : lowerRuns.all CaseRun.isSettled = true := by decide +kernel
    rw [lowerChar] at h
    split at h
    · rcases List.mem_cons.mp h with rfl | h
      · exact .inl rfl
      · rw [List.mem_singleton.mp h] at hd
        exact absurd hd (by unfold IsBasic; decide)
    · rw [List.mem_singleton] at h
      cases hlookup : CaseRun.lookup lowerRuns c.toNat with
      | none =>
          rw [hlookup, Option.getD_none] at h
          exact absurd (h ▸ hd) hc
      | some e =>
          rw [hlookup, Option.getD_some] at h
          obtain ⟨run, hrun, hn, he⟩ := CaseRun.exists_of_lookup hlookup
          rw [h, he] at hd ⊢
          exact .inl (CaseRun.isLower_apply (List.all_eq_true.mp hsettled run hrun) hn hd)

/-- In Basic Latin, the lower case of a text has small letters and characters of the text that are
no capitals. -/
theorem isLower_or_mem_of_mem_lowerAfter {before text : List Char} {d : Char} (hd : IsBasic d)
    (h : d ∈ lowerAfter before text) : d.isLower = true ∨ d ∈ text ∧ d.isUpper = false := by
  induction text generalizing before with
  | nil => cases h
  | cons c rest ih =>
      rw [lowerAfter] at h
      rcases List.mem_append.mp h with h | h
      · split at h
        · rw [List.mem_singleton.mp h] at hd
          exact absurd hd (by unfold IsBasic; split <;> decide)
        · rcases isLower_or_eq_of_mem_lowerChar hd h with hlower | ⟨rfl, hupper⟩
          · exact .inl hlower
          · exact .inr ⟨List.mem_cons_self .., hupper⟩
      · exact (ih h).imp_right fun ⟨hmem, hupper⟩ => ⟨List.mem_cons_of_mem c hmem, hupper⟩

end Images

end Phrasebook.Text
