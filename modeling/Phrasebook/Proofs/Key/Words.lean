import Phrasebook.Proofs.Key

/-!
# Where words are cut

Cutting a text into words loses nothing but separators. At a separator a text falls apart into two
texts that are cut on their own. Between separators a word starts at a capital only, so that a run
without capitals is one word.
-/

namespace Phrasebook.Key

open Text

section Separators

variable {c : Char}

private theorem chunksAfter_append_separator (hc : isSeparator c = true)
    (chunk before after : List Char) :
    chunksAfter chunk (before ++ c :: after) = chunksAfter chunk before ++ chunks after := by
  induction before generalizing chunk with
  | nil =>
      simp only [List.nil_append, chunksAfter, chunks, hc, if_true]
      split <;> rfl
  | cons d before ih =>
      rw [List.cons_append, chunksAfter, chunksAfter]
      by_cases hd : isSeparator d = true
      · rw [if_pos hd, if_pos hd, ih]
        split <;> rfl
      · rw [if_neg hd, if_neg hd, ih]

/-- The words on both sides of a separator are cut on their own. -/
theorem words_append_separator (hc : isSeparator c = true) (before after : List Char) :
    words (before ++ c :: after) = words before ++ words after := by
  rw [words, chunks, chunksAfter_append_separator hc, List.flatMap_append]
  rfl

end Separators

section Runs

variable {text : List Char}

/-- Without separators a run goes on to the end. -/
theorem chunksAfter_of_unseparated (h : ∀ c ∈ text, isSeparator c = false) (chunk : List Char) :
    chunksAfter chunk text =
      if chunk.reverse ++ text = [] then [] else [chunk.reverse ++ text] := by
  induction text generalizing chunk with
  | nil => simp [chunksAfter]
  | cons c rest ih =>
      obtain ⟨hc, hrest⟩ := List.forall_mem_cons.mp h
      rw [chunksAfter, hc, if_neg Bool.false_ne_true, ih hrest, List.reverse_cons,
        List.append_assoc, List.singleton_append]

/-- Without capitals a word goes on to the end. -/
private theorem wordsAfter_of_uncapitalized (h : ∀ c ∈ text, isUppercase c = false)
    (word : List Char) (previous : Char) :
    wordsAfter word previous text = [word.reverse ++ text] := by
  induction text generalizing word previous with
  | nil => simp [wordsAfter]
  | cons c rest ih =>
      obtain ⟨hc, hrest⟩ := List.forall_mem_cons.mp h
      have hstart : startsWord previous c rest.head? = false := by
        rw [startsWord, hc, Bool.false_and]
      rw [wordsAfter, hstart, if_neg Bool.false_ne_true, ih hrest, List.reverse_cons,
        List.append_assoc, List.singleton_append]

/-- A text without separators and capitals is one word. -/
theorem words_eq_singleton (hne : text ≠ []) (hseparator : ∀ c ∈ text, isSeparator c = false)
    (hcapital : ∀ c ∈ text, isUppercase c = false) : words text = [text] := by
  have hchunks : chunks text = [text] := by
    rw [chunks, chunksAfter_of_unseparated hseparator, List.reverse_nil, List.nil_append,
      if_neg hne]
  obtain ⟨c, rest, rfl⟩ := List.exists_cons_of_ne_nil hne
  rw [words, hchunks, List.flatMap_singleton, chunkWords,
    wordsAfter_of_uncapitalized (List.forall_mem_cons.mp hcapital).2]
  rfl

/-- Joined words without separators and capitals are cut again where they were joined. -/
theorem words_intercalate {c : Char} (hc : isSeparator c = true) {ws : List (List Char)}
    (h : ∀ w ∈ ws, w ≠ [] ∧ ∀ d ∈ w, isSeparator d = false ∧ isUppercase d = false) :
    words ([c].intercalate ws) = ws := by
  have hword (w : List Char) (hw : w ∈ ws) : words w = [w] := by
    obtain ⟨hne, hchars⟩ := h w hw
    exact words_eq_singleton hne (fun d hd => (hchars d hd).1) fun d hd => (hchars d hd).2
  clear h
  induction ws with
  | nil => rfl
  | cons w ws ih =>
      obtain ⟨hw, hws⟩ := List.forall_mem_cons.mp hword
      cases ws with
      | nil => rw [List.intercalate_singleton, hw]
      | cons next ws =>
          rw [List.intercalate_cons_cons, List.append_assoc, List.singleton_append,
            words_append_separator hc, hw, ih hws, List.singleton_append]

end Runs

section Characters

/-- The runs hold the characters that do not separate words, in order. -/
private theorem flatten_chunksAfter (chunk text : List Char) : (chunksAfter chunk text).flatten =
    chunk.reverse ++ text.filter fun c => !isSeparator c := by
  induction text generalizing chunk with
  | nil =>
      rw [chunksAfter]
      split <;> simp_all
  | cons c rest ih =>
      rw [chunksAfter]
      by_cases hc : isSeparator c = true
      · rw [if_pos hc, List.filter_cons_of_neg (by simp [hc])]
        split
        · rename_i hchunk
          rw [ih, List.isEmpty_iff.mp hchunk]
        · rw [List.flatten_cons, ih, List.reverse_nil, List.nil_append]
      · rw [if_neg hc, List.filter_cons_of_pos (by simp [hc]), ih, List.reverse_cons,
          List.append_assoc, List.singleton_append]

/-- The words of a run are the run. -/
theorem flatten_wordsAfter (word : List Char) (previous : Char) (text : List Char) :
    (wordsAfter word previous text).flatten = word.reverse ++ text := by
  induction text generalizing word previous with
  | nil => simp [wordsAfter]
  | cons c rest ih =>
      rw [wordsAfter]
      split
      · rw [List.flatten_cons, ih, List.reverse_singleton, List.singleton_append]
      · rw [ih, List.reverse_cons, List.append_assoc, List.singleton_append]

theorem flatten_chunkWords (chunk : List Char) : (chunkWords chunk).flatten = chunk := by
  cases chunk with
  | nil => rfl
  | cons c rest =>
      rw [chunkWords, flatten_wordsAfter, List.reverse_singleton, List.singleton_append]

/-- Words hold the characters of the text that do not separate words, in order. -/
theorem flatten_words (text : List Char) :
    (words text).flatten = text.filter fun c => !isSeparator c := by
  have hchunks : (words text).flatten = (chunks text).flatten := by
    rw [words, ← List.flatMap_id, List.flatMap_assoc, ← List.flatMap_id]
    apply List.flatMap_congr
    intro chunk _
    rw [List.flatMap_id, flatten_chunkWords, id]
  rw [hchunks, chunks, flatten_chunksAfter, List.reverse_nil, List.nil_append]

end Characters

end Phrasebook.Key
