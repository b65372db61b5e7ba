import Phrasebook.Proofs.Key.Words

/-!
# The boundaries of words

Which neighbours in a text end up in different words, told without reading the text from its start.
Words lose nothing but separators and never reach over one. Between two neighbours that are no
separators a word ends exactly if the second one is a capital behind a small letter or a digit, or a
capital behind a capital that a small letter of the same run follows.
-/

namespace Phrasebook.Key

open Text

/-- The characters of a text that belong to words. -/
def kept (text : List Char) : List Char := text.filter fun c => !isSeparator c

/-- Words fall apart between two texts: the words up to a place make up the first text, and those
behind it the second one. -/
def CutBetween (ws : List (List Char)) (before after : List Char) : Prop :=
  ∃ front back, ws = front ++ back ∧ front.flatten = before ∧ back.flatten = after

/-- A word starts at a character of a run, given the one before it and the text behind it. The run
goes on behind the character if no separator follows. -/
def IsBoundary (previous c : Char) (after : List Char) : Prop :=
  isUppercase c = true ∧ (isLowercase previous = true ∨ isDigit previous = true ∨
    isUppercase previous = true ∧ ∃ next rest, after = next :: rest ∧
      isSeparator next = false ∧ isLowercase next = true)

section Cuts

variable {ws ws' : List (List Char)} {w before after : List Char}

/-- A cut behind the first word is one of the other words. -/
theorem cutBetween_cons (hw : w ≠ []) :
    CutBetween (w :: ws) (w ++ before) after ↔ CutBetween ws before after := by
  constructor
  · rintro ⟨front, back, hws, hfront, hback⟩
    cases front with
    | nil =>
        rw [List.flatten_nil, eq_comm, List.append_eq_nil_iff] at hfront
        exact absurd hfront.1 hw
    | cons w' front =>
        obtain ⟨rfl, rfl⟩ := List.cons.inj hws
        exact ⟨front, back, rfl, List.append_cancel_left hfront, hback⟩
  · rintro ⟨front, back, rfl, rfl, rfl⟩
    exact ⟨w :: front, back, rfl, rfl, rfl⟩

/-- A cut behind some words is one of the other words. -/
private theorem cutBetween_append_left (h : ∀ w ∈ ws, w ≠ []) :
    CutBetween (ws ++ ws') (ws.flatten ++ before) after ↔ CutBetween ws' before after := by
  induction ws with
  | nil => rfl
  | cons w ws ih =>
      obtain ⟨hw, hws⟩ := List.forall_mem_cons.mp h
      rw [List.cons_append, List.flatten_cons, List.append_assoc, cutBetween_cons hw, ih hws]

/-- A cut before the end of some words does not depend on the words behind them. -/
private theorem cutBetween_append_right (h : after ≠ []) :
    CutBetween (ws ++ ws') before (after ++ ws'.flatten) ↔ CutBetween ws before after := by
  constructor
  · rintro ⟨front, back, hws, hfront, hback⟩
    rcases List.append_eq_append_iff.mp hws with ⟨middle, rfl, rfl⟩ | ⟨middle, rfl, rfl⟩
    · -- The cut would lie behind the first words, and so nothing would be left of them.
      have hlength := congrArg List.length hback
      rw [List.flatten_append, List.length_append, List.length_append] at hlength
      have hpos := List.length_pos_iff.mpr h
      omega
    · rw [List.flatten_append] at hback
      exact ⟨front, middle, rfl, hfront, List.append_cancel_right hback⟩
  · rintro ⟨front, back, rfl, rfl, rfl⟩
    exact ⟨front, back ++ ws', List.append_assoc .., rfl, List.flatten_append⟩

end Cuts

section Runs

/-- The first word of the rest of a run starts with what was read of it. -/
private theorem exists_first_wordsAfter (word : List Char) (previous : Char) (text : List Char) :
    ∃ tail ws, wordsAfter word previous text = (word.reverse ++ tail) :: ws := by
  induction text generalizing word previous with
  | nil => exact ⟨[], [], by rw [wordsAfter, List.append_nil]⟩
  | cons c rest ih =>
      rw [wordsAfter]
      split
      · exact ⟨[], _, by rw [List.append_nil]⟩
      · obtain ⟨tail, ws, h⟩ := ih (c :: word) c
        exact ⟨c :: tail, ws, by rw [h, List.reverse_cons, List.append_assoc]; rfl⟩

/-- The next character starts a word exactly if the rule says so. -/
private theorem cutBetween_wordsAfter_head {word : List Char} (hword : word ≠ [])
    (previous c : Char) (after : List Char) :
    CutBetween (wordsAfter word previous (c :: after)) word.reverse (c :: after) ↔
      startsWord previous c after.head? = true := by
  rw [wordsAfter]
  by_cases hstart : startsWord previous c after.head? = true
  · rw [if_pos hstart]
    refine iff_of_true ⟨[word.reverse], wordsAfter [c] c after, rfl, by simp, ?_⟩ hstart
    rw [flatten_wordsAfter, List.reverse_singleton, List.singleton_append]
  · rw [if_neg hstart]
    refine iff_of_false ?_ hstart
    rintro ⟨front, back, hws, hfront, -⟩
    -- The first word goes on with `c`, so no words end before it.
    obtain ⟨tail, ws, hfirst⟩ := exists_first_wordsAfter (c :: word) c after
    rw [hfirst] at hws
    cases front with
    | nil => exact hword (List.reverse_eq_nil_iff.mp hfront.symm)
    | cons w front =>
        obtain ⟨rfl, -⟩ := List.cons.inj hws
        have hlength := congrArg List.length hfront
        simp only [List.reverse_cons, List.flatten_cons, List.length_append, List.length_reverse,
          List.length_singleton] at hlength
        omega

/-- A character in the rest of a run starts a word exactly if the rule says so. -/
private theorem cutBetween_wordsAfter {word : List Char} (hword : word ≠ []) (previous : Char)
    (run : List Char) (c : Char) (after : List Char) :
    CutBetween (wordsAfter word previous (run ++ c :: after)) (word.reverse ++ run) (c :: after) ↔
      startsWord (run.getLast?.getD previous) c after.head? = true := by
  induction run generalizing word previous with
  | nil =>
      rw [List.append_nil]
      exact cutBetween_wordsAfter_head hword previous c after
  | cons d run ih =>
      have hlast : (d :: run).getLast?.getD previous = run.getLast?.getD d := by
        rw [List.getLast?_cons, Option.getD_some]
      rw [List.cons_append, wordsAfter, hlast]
      split
      · rw [cutBetween_cons (by simpa using hword)]
        exact ih (List.cons_ne_nil d []) d
      · rw [← ih (List.cons_ne_nil d word) d, List.reverse_cons, List.append_assoc,
          List.singleton_append]

/-- A character in a run starts a word exactly if the rule says so. -/
theorem cutBetween_chunkWords (run : List Char) (previous c : Char) (after : List Char) :
    CutBetween (chunkWords (run ++ previous :: c :: after)) (run ++ [previous]) (c :: after) ↔
      startsWord previous c after.head? = true := by
  cases run with
  | nil => exact cutBetween_wordsAfter_head (List.cons_ne_nil previous []) previous c after
  | cons d run =>
      have h := cutBetween_wordsAfter (List.cons_ne_nil d []) d (run ++ [previous]) c after
      rw [List.getLast?_concat, Option.getD_some, List.append_assoc] at h
      exact h

end Runs

section Texts

variable {text : List Char}

theorem kept_append (text text' : List Char) : kept (text ++ text') = kept text ++ kept text' :=
  List.filter_append ..

theorem kept_of_unseparated (h : ∀ c ∈ text, isSeparator c = false) : kept text = text := by
  rw [kept, List.filter_eq_self]
  intro c hc
  rw [h c hc]
  rfl

private theorem kept_cons_separator {c : Char} (h : isSeparator c = true) (text : List Char) :
    kept (c :: text) = kept text :=
  List.filter_cons_of_neg (by simp [h])

theorem kept_cons {c : Char} (h : isSeparator c = false) (text : List Char) :
    kept (c :: text) = c :: kept text :=
  List.filter_cons_of_pos (by simp [h])

/-- A text is a run, or its last separator stands before a run. -/
private theorem unseparated_or_last (text : List Char) : (∀ c ∈ text, isSeparator c = false) ∨
    ∃ before c run, text = before ++ c :: run ∧ isSeparator c = true ∧
      ∀ d ∈ run, isSeparator d = false := by
  induction text with
  | nil => exact .inl (List.forall_mem_nil _)
  | cons c rest ih =>
      rcases ih with hrest | ⟨before, d, run, rfl, hd, hrun⟩
      · cases hc : isSeparator c with
        | true => exact .inr ⟨[], c, rest, rfl, hc, hrest⟩
        | false => exact .inl (List.forall_mem_cons.mpr ⟨hc, hrest⟩)
      · exact .inr ⟨c :: before, d, run, rfl, hd, hrun⟩

/-- A text is a run, or its first separator stands behind a run. -/
private theorem unseparated_or_first (text : List Char) : (∀ c ∈ text, isSeparator c = false) ∨
    ∃ run c after, text = run ++ c :: after ∧ isSeparator c = true ∧
      ∀ d ∈ run, isSeparator d = false := by
  induction text with
  | nil => exact .inl (List.forall_mem_nil _)
  | cons c rest ih =>
      cases hc : isSeparator c with
      | true => exact .inr ⟨[], c, rest, rfl, hc, List.forall_mem_nil _⟩
      | false =>
          rcases ih with hrest | ⟨run, d, after, rfl, hd, hrun⟩
          · exact .inl (List.forall_mem_cons.mpr ⟨hc, hrest⟩)
          · exact .inr ⟨c :: run, d, after, rfl, hd, List.forall_mem_cons.mpr ⟨hc, hrun⟩⟩

/-- A run is cut on its own. -/
theorem words_of_unseparated (h : ∀ c ∈ text, isSeparator c = false) :
    words text = chunkWords text := by
  rw [words, chunks, chunksAfter_of_unseparated h, List.reverse_nil, List.nil_append]
  split
  · rename_i hnil
    rw [hnil]
    rfl
  · rw [List.flatMap_singleton]

/-- The rule for boundaries, where no separator follows. -/
theorem startsWord_iff {previous c : Char} {after : List Char}
    (h : ∀ d ∈ after, isSeparator d = false) :
    startsWord previous c after.head? = true ↔ IsBoundary previous c after := by
  have hnext : after.head?.any isLowercase = true ↔ ∃ next rest, after = next :: rest ∧
      isSeparator next = false ∧ isLowercase next = true := by
    cases after with
    | nil => simp
    | cons next rest => simp [h next (List.mem_cons_self ..)]
  rw [startsWord, IsBoundary, Bool.and_eq_true, Bool.or_eq_true, Bool.or_eq_true,
    Bool.and_eq_true, hnext, or_assoc]

/-- What stands behind a separator has no part in the rule. -/
theorem isBoundary_append_separator {previous c s : Char} (hs : isSeparator s = true)
    (run after : List Char) :
    IsBoundary previous c (run ++ s :: after) ↔ IsBoundary previous c run := by
  cases run with
  | nil => simp [IsBoundary, hs]
  | cons d run => simp [IsBoundary]

/-- Behind a run, a character starts a word exactly at a boundary. -/
theorem cutBetween_words_of_run {run : List Char} {previous c : Char}
    (hrun : ∀ d ∈ run ++ [previous, c], isSeparator d = false) (after : List Char) :
    CutBetween (words (run ++ previous :: c :: after)) (run ++ [previous]) (kept (c :: after)) ↔
      IsBoundary previous c after := by
  have hc : isSeparator c = false := hrun c (by simp)
  -- First for a run that goes on to the end of the text.
  have hwhole {rest : List Char} (hrest : ∀ d ∈ rest, isSeparator d = false) :
      CutBetween (words (run ++ previous :: c :: rest)) (run ++ [previous]) (c :: rest) ↔
        IsBoundary previous c rest := by
    have hall : ∀ d ∈ run ++ previous :: c :: rest, isSeparator d = false := by
      have happend := List.forall_mem_append.mpr ⟨hrun, hrest⟩
      rwa [List.append_assoc] at happend
    rw [words_of_unseparated hall, ← startsWord_iff hrest]
    exact cutBetween_chunkWords run previous c rest
  rw [kept_cons hc]
  rcases unseparated_or_first after with hafter | ⟨rest, s, behind, rfl, hs, hrest⟩
  · rw [kept_of_unseparated hafter]
    exact hwhole hafter
  · have hwords : words (run ++ previous :: c :: (rest ++ s :: behind)) =
        words (run ++ previous :: c :: rest) ++ words behind := by
      rw [← words_append_separator hs, List.append_assoc]
      rfl
    have hkept : c :: kept (rest ++ s :: behind) = (c :: rest) ++ (words behind).flatten := by
      rw [kept_append, kept_cons_separator hs, kept_of_unseparated hrest, flatten_words]
      rfl
    rw [hwords, hkept, cutBetween_append_right (List.cons_ne_nil c rest), hwhole hrest,
      isBoundary_append_separator hs]

/-- In a text, a character behind one that is no separator starts a word exactly at a boundary. -/
theorem cutBetween_words {previous c : Char} (hprevious : isSeparator previous = false)
    (hc : isSeparator c = false) (before after : List Char) :
    CutBetween (words (before ++ previous :: c :: after)) (kept (before ++ [previous]))
      (kept (c :: after)) ↔ IsBoundary previous c after := by
  have hpair : ∀ d ∈ [previous, c], isSeparator d = false := by
    simp [hprevious, hc]
  have hsingle : kept [previous] = [previous] := kept_cons hprevious []
  rw [kept_append, hsingle]
  rcases unseparated_or_last before with hrun | ⟨front, s, run, rfl, hs, hrun⟩
  · rw [kept_of_unseparated hrun]
    exact cutBetween_words_of_run (List.forall_mem_append.mpr ⟨hrun, hpair⟩) after
  · have hkept : kept (front ++ s :: run) ++ [previous] =
        (words front).flatten ++ (run ++ [previous]) := by
      rw [kept_append, kept_cons_separator hs, kept_of_unseparated hrun, flatten_words,
        List.append_assoc]
      rfl
    rw [hkept, List.append_assoc, List.cons_append, words_append_separator hs,
      cutBetween_append_left fun w hw => ne_nil_of_mem_words hw]
    exact cutBetween_words_of_run (List.forall_mem_append.mpr ⟨hrun, hpair⟩) after

end Texts

/-- Cutting a text into words loses nothing and cuts at the boundaries only. The words have
characters, none of which separates words, and are together the text without its separators. They
are cut at every separator, and between two neighbours that are no separators exactly if there is a
boundary. -/
theorem words_cut_at_boundaries (text : List Char) :
    (∀ w ∈ words text, w ≠ [] ∧ ∀ c ∈ w, isSeparator c = false) ∧
    (words text).flatten = kept text ∧
    (∀ before c after, text = before ++ c :: after → isSeparator c = true →
      CutBetween (words text) (kept before) (kept after)) ∧
    ∀ before previous c after, text = before ++ previous :: c :: after →
      isSeparator previous = false → isSeparator c = false →
      (CutBetween (words text) (kept (before ++ [previous])) (kept (c :: after)) ↔
        IsBoundary previous c after) := by
  refine ⟨fun w hw => ⟨ne_nil_of_mem_words hw, fun c hc => (mem_of_mem_words hw hc).2⟩,
    flatten_words text, ?_, ?_⟩
  · rintro before c after rfl hc
    exact ⟨words before, words after, words_append_separator hc before after,
      flatten_words before, flatten_words after⟩
  · rintro before previous c after rfl hprevious hc
    exact cutBetween_words hprevious hc before after

/-- A text with boundaries of every kind. Its last character counts as small and is a separator. -/
def mixedRuns : List Char := "myHTTPBody2Go_AB\u0345".toList

/-- The last capital of a row starts a word if a small letter follows, but not if this letter is a
separator. -/
theorem words_cut_at_boundaries_mixed :
    words mixedRuns =
      ["my".toList, "HTTP".toList, "Body2".toList, "Go".toList, "AB".toList] ∧
    isLowercase '\u0345' = true ∧ isSeparator '\u0345' = true ∧
    CutBetween (words mixedRuns) "myHTTP".toList "Body2GoAB".toList ∧
    CutBetween (words mixedRuns) "myHTTPBody2Go".toList "AB".toList ∧
    ¬ CutBetween (words mixedRuns) "myHTTPBody2GoA".toList "B".toList := by
  obtain ⟨-, -, hseparator, hboundary⟩ := words_cut_at_boundaries mixedRuns
  have hrow := hboundary "myHTT".toList 'P' 'B' "ody2Go_AB\u0345".toList (by decide) (by decide)
    (by decide)
  have hlast := hboundary "myHTTPBody2Go_".toList 'A' 'B' "\u0345".toList (by decide) (by decide)
    (by decide)
  have hlowLine := hseparator "myHTTPBody2Go".toList '_' "AB\u0345".toList (by decide) (by decide)
  refine ⟨by decide, by decide +kernel, by decide, hrow.mpr ?_, hlowLine, hlast.not.mpr ?_⟩
  · exact ⟨by decide, .inr (.inr ⟨by decide, 'o', "dy2Go_AB\u0345".toList, by decide, by decide,
      by decide⟩)⟩
  · rintro ⟨-, hsmall | hdigit | ⟨-, next, rest, hrest, hnext, -⟩⟩
    · exact absurd hsmall (by decide)
    · exact absurd hdigit (by decide)
    · have hhead : '\u0345' = next := (List.cons.inj hrest).1
      rw [← hhead] at hnext
      exact absurd hnext (by decide)

end Phrasebook.Key
