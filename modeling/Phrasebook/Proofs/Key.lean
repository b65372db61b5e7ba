import Mathlib.Data.List.Basic
import Phrasebook.Key
import Phrasebook.Proofs.Text.Case

/-!
# The words of a text

Words are made of the characters of the text that do not separate words. In Basic Latin this is
still so when the words are capitalized and joined together. An identifier joins words in lower
case, so that it has no capital, and its low lines at the start come in pairs.
-/

namespace Phrasebook.Key

open Text

/-- A run between separators consists of characters of the text that do not separate words, or of
those that were read before. -/
private theorem mem_of_mem_chunksAfter {chunk text w : List Char} (h : w ∈ chunksAfter chunk text)
    {c : Char} (hc : c ∈ w) : c ∈ chunk ∨ c ∈ text ∧ isSeparator c = false := by
  induction text generalizing chunk with
  | nil =>
      rw [chunksAfter] at h
      split at h
      · simp at h
      · rw [List.mem_singleton.mp h, List.mem_reverse] at hc
        exact .inl hc
  | cons d rest ih =>
      have hrest {chunk : List Char} (h : w ∈ chunksAfter chunk rest) :
          c ∈ chunk ∨ c ∈ d :: rest ∧ isSeparator c = false := by
        rcases ih h with hchunk | ⟨hmem, hc⟩
        · exact .inl hchunk
        · exact .inr ⟨List.mem_cons_of_mem d hmem, hc⟩
      rw [chunksAfter] at h
      split at h
      · split at h
        · exact .inr ((hrest h).resolve_left (by simp))
        · rcases List.mem_cons.mp h with rfl | h
          · exact .inl (List.mem_reverse.mp hc)
          · exact .inr ((hrest h).resolve_left (by simp))
      · rename_i hd
        rcases hrest h with hchunk | hmem
        · rcases List.mem_cons.mp hchunk with rfl | hchunk
          · exact .inr ⟨List.mem_cons_self .., by simpa using hd⟩
          · exact .inl hchunk
        · exact .inr hmem

/-- A word of a run consists of characters of the run. -/
private theorem mem_of_mem_wordsAfter {word text w : List Char} {previous : Char}
    (h : w ∈ wordsAfter word previous text) {c : Char} (hc : c ∈ w) : c ∈ word ∨ c ∈ text := by
  induction text generalizing word previous with
  | nil =>
      rw [List.mem_singleton.mp h, List.mem_reverse] at hc
      exact .inl hc
  | cons d rest ih =>
      rw [wordsAfter] at h
      split at h
      · rcases List.mem_cons.mp h with rfl | h
        · exact .inl (List.mem_reverse.mp hc)
        · exact .inr (List.mem_cons.mpr ((ih h).imp_left List.mem_singleton.mp))
      · rcases ih h with hword | hrest
        · rcases List.mem_cons.mp hword with rfl | hword
          · exact .inr (List.mem_cons_self ..)
          · exact .inl hword
        · exact .inr (List.mem_cons_of_mem d hrest)

/-- A word of a text consists of characters of the text that do not separate words. -/
theorem mem_of_mem_words {text w : List Char} (h : w ∈ words text) {c : Char} (hc : c ∈ w) :
    c ∈ text ∧ isSeparator c = false := by
  obtain ⟨chunk, hchunk, hw⟩ := List.mem_flatMap.mp h
  have hmem : c ∈ chunk := by
    cases chunk with
    | nil => simp [chunkWords] at hw
    | cons d rest =>
        have hword := mem_of_mem_wordsAfter hw hc
        exact List.mem_cons.mpr (hword.imp_left List.mem_singleton.mp)
  exact (mem_of_mem_chunksAfter hchunk hmem).resolve_left (by simp)

/-- A letter or digit of Basic Latin is one in either case. -/
private theorem isAlphanum_case {c : Char} (hc : IsBasic c) (h : isSeparator c = false) :
    c.toUpper.isAlphanum = true ∧ c.toLower.isAlphanum = true := by
  revert h
  exact IsBasic.of_forall
    (p := fun c => isSeparator c = false →
      c.toUpper.isAlphanum = true ∧ c.toLower.isAlphanum = true) (by decide +kernel) hc

/-- The capitalized words of a text in Basic Latin have letters and digits only. -/
theorem isAlphanum_of_mem_camel {text : String} (h : ∀ c ∈ text.toList, IsBasic c) {c : Char}
    (hc : c ∈ (camel text).toList) : c.isAlphanum = true := by
  rw [camel, String.toList_ofList, List.mem_flatMap] at hc
  obtain ⟨w, hw, hmem⟩ := hc
  cases w with
  | nil => simp [capitalize] at hmem
  | cons d rest =>
      have hword (e : Char) (he : e ∈ d :: rest) := mem_of_mem_words hw he
      have hbasic (e : Char) (he : e ∈ d :: rest) : IsBasic e := h e (hword e he).1
      have hd := List.mem_cons_self (a := d) (l := rest)
      rw [capitalize, upperChar_of_isBasic (hbasic d hd), lowerChars,
        lowerAfter_of_isBasic [] fun e he => hbasic e (List.mem_cons_of_mem d he)] at hmem
      rcases List.mem_append.mp hmem with hmem | hmem
      · rw [List.mem_singleton.mp hmem]
        exact (isAlphanum_case (hbasic d hd) (hword d hd).2).1
      · obtain ⟨e, he, rfl⟩ := List.mem_map.mp hmem
        have he := List.mem_cons_of_mem d he
        exact (isAlphanum_case (hbasic e he) (hword e he).2).2

/-- The capitalized words of a text in Basic Latin have no low line. -/
theorem lowLine_not_mem_camel {text : String} (h : ∀ c ∈ text.toList, IsBasic c) :
    '_' ∉ (camel text).toList := by
  intro hmem
  exact absurd (isAlphanum_of_mem_camel h hmem) (by decide)

section Identifiers

/-- The words of a run have characters. -/
private theorem ne_nil_of_mem_wordsAfter {word text w : List Char} {previous : Char}
    (hword : word ≠ []) (h : w ∈ wordsAfter word previous text) : w ≠ [] := by
  induction text generalizing word previous with
  | nil =>
      rw [List.mem_singleton.mp h]
      simpa using hword
  | cons c rest ih =>
      rw [wordsAfter] at h
      split at h
      · rcases List.mem_cons.mp h with rfl | h
        · simpa using hword
        · exact ih (by simp) h
      · exact ih (by simp) h

theorem ne_nil_of_mem_words {text w : List Char} (h : w ∈ words text) : w ≠ [] := by
  obtain ⟨chunk, -, hw⟩ := List.mem_flatMap.mp h
  cases chunk with
  | nil => simp [chunkWords] at hw
  | cons c rest => exact ne_nil_of_mem_wordsAfter (by simp) hw

/-- A character of joined lists comes from one of them or from what joins them. -/
theorem mem_of_mem_intercalate {separator : List Char} {lists : List (List Char)} {c : Char}
    (h : c ∈ separator.intercalate lists) : c ∈ separator ∨ ∃ l ∈ lists, c ∈ l := by
  induction lists with
  | nil => simp at h
  | cons l rest ih =>
      cases rest with
      | nil => exact .inr ⟨l, by simp, by simpa using h⟩
      | cons next rest =>
          rw [List.intercalate_cons_cons, List.mem_append, List.mem_append] at h
          rcases h with (h | h) | h
          · exact .inr ⟨l, List.mem_cons_self .., h⟩
          · exact .inl h
          · refine (ih h).imp_right fun ⟨l', hl', hc⟩ => ⟨l', List.mem_cons_of_mem l hl', hc⟩

/-- Joined lists start as the first one does, if it is not empty. -/
theorem head?_intercalate_cons (separator : List Char) {l : List Char} (hl : l ≠ [])
    (rest : List (List Char)) : (separator.intercalate (l :: rest)).head? = l.head? := by
  cases rest with
  | nil => simp
  | cons next rest =>
      rw [List.intercalate_cons_cons, List.append_assoc, List.head?_append_of_ne_nil l hl]

theorem lowerChars_ne_nil {text : List Char} (h : text ≠ []) : lowerChars text ≠ [] := by
  obtain ⟨c, rest, rfl⟩ := List.exists_cons_of_ne_nil h
  rw [lowerChars, lowerAfter]
  split
  · simp
  · rw [lowerChar]
    split <;> simp

/-- A word in lower case has no low line. -/
theorem lowLine_not_mem_lowerChars {text w : List Char} (h : w ∈ words text) :
    '_' ∉ lowerChars w := by
  intro hmem
  have hbasic : IsBasic '_' := by unfold IsBasic; decide
  rcases isLower_or_mem_of_mem_lowerAfter hbasic hmem with hlower | ⟨hmem, -⟩
  · exact absurd hlower (by decide)
  · exact absurd (mem_of_mem_words h hmem).2 (by decide +kernel)

end Identifiers

end Phrasebook.Key
