import Phrasebook.Proofs.Key.Words
import Phrasebook.Proofs.Text.Pattern

/-!
# Snake case in Basic Latin

In Basic Latin, snake case is a normal form: words of small letters and digits, joined by single low
lines. The texts of this form are the ones that snake case leaves alone, since they are cut again
where they were joined and have no capital to make small. On the way to it nothing but low lines is
added, and nothing but what separates words is lost.
-/

namespace Phrasebook.Key

open Text

/-- The small letters and the digits. -/
def smallChars : List Char := "abcdefghijklmnopqrstuvwxyz0123456789".toList

/-- The pattern of words in snake case: `[a-z0-9]+`. -/
def smallWord : RegularExpression Char := oneOf smallChars * (oneOf smallChars).star

/-- The pattern of snake case: `[a-z0-9]+(_[a-z0-9]+)*`. -/
def snakePattern : RegularExpression Char :=
  smallWord * (RegularExpression.char '_' * smallWord).star

/-- A text is in snake case: it is empty, or it has the pattern. -/
def IsSnake (text : String) : Prop := text = "" ∨ text.toList ∈ snakePattern.matches'

section Pattern

open RegularExpression

theorem mem_smallWord {w : List Char} :
    w ∈ smallWord.matches' ↔ w ≠ [] ∧ ∀ c ∈ w, c ∈ smallChars := mem_oneOf_mul_star

/-- Joined words are the first one and the others with what joins them in front. -/
private theorem intercalate_cons (separator w : List Char) (ws : List (List Char)) :
    separator.intercalate (w :: ws) = w ++ ws.flatMap (separator ++ ·) := by
  induction ws generalizing w with
  | nil => simp
  | cons next ws ih =>
      rw [List.intercalate_cons_cons, ih, List.flatMap_cons, List.append_assoc, List.append_assoc]

/-- The texts of the pattern are words of the pattern for words, joined by low lines. -/
theorem mem_snakePattern {text : List Char} : text ∈ snakePattern.matches' ↔
    ∃ ws, ws ≠ [] ∧ (∀ w ∈ ws, w ∈ smallWord.matches') ∧ ['_'].intercalate ws = text := by
  rw [snakePattern, matches'_mul, Language.mem_mul, matches'_star, matches'_mul]
  constructor
  · rintro ⟨w, hw, _, hrest, rfl⟩
    obtain ⟨parts, rfl, hparts⟩ := Language.mem_kstar.mp hrest
    have hpart : ∀ part ∈ parts, part.tail ∈ smallWord.matches' ∧ ['_'] ++ part.tail = part := by
      intro part hmem
      obtain ⟨_, hmark, word, hword, rfl⟩ := Language.mem_mul.mp (hparts part hmem)
      rw [mem_char.mp hmark]
      exact ⟨hword, rfl⟩
    refine ⟨w :: parts.map List.tail, by simp, ?_, ?_⟩
    · refine List.forall_mem_cons.mpr ⟨hw, ?_⟩
      intro word hword
      obtain ⟨part, hmem, rfl⟩ := List.mem_map.mp hword
      exact (hpart part hmem).1
    · rw [intercalate_cons, List.flatMap_map, ← List.flatMap_id]
      congr 1
      apply List.flatMap_congr
      intro part hmem
      exact (hpart part hmem).2
  · rintro ⟨ws, hne, hwords, rfl⟩
    obtain ⟨w, ws, rfl⟩ := List.exists_cons_of_ne_nil hne
    obtain ⟨hw, hws⟩ := List.forall_mem_cons.mp hwords
    refine ⟨w, hw, ws.flatMap (['_'] ++ ·), ?_, (intercalate_cons _ _ _).symm⟩
    refine Language.mem_kstar.mpr ⟨ws.map (['_'] ++ ·), List.flatMap_def, ?_⟩
    intro part hpart
    obtain ⟨word, hword, rfl⟩ := List.mem_map.mp hpart
    exact Language.mem_mul.mpr ⟨['_'], mem_char.mpr rfl, word, hws word hword, rfl⟩

end Pattern

section Characters

variable {c : Char}

/-- In Basic Latin, what is neither a letter nor a digit separates words. -/
theorem isSeparator_of_isBasic (hc : IsBasic c) : isSeparator c = !c.isAlphanum :=
  IsBasic.of_forall (p := fun c => isSeparator c = !c.isAlphanum) (by decide) hc

/-- What does not separate words is a small letter or a digit in lower case. -/
private theorem toLower_mem_smallChars (hc : IsBasic c) (h : isSeparator c = false) :
    c.toLower ∈ smallChars := by
  revert h
  exact IsBasic.of_forall (p := fun c => isSeparator c = false → c.toLower ∈ smallChars)
    (by decide) hc

/-- A small letter or a digit belongs to a word, starts no other one and is its own lower case. -/
private theorem of_mem_smallChars (h : c ∈ smallChars) :
    IsBasic c ∧ c.toLower = c ∧ isSeparator c = false ∧ isUppercase c = false := by
  have hall : smallChars.all (fun c => decide (c.toNat < 128 ∧ c.toLower = c ∧
      isSeparator c = false ∧ isUppercase c = false)) = true := by
    decide
  have hc := List.all_eq_true.mp hall c h
  rwa [decide_eq_true_eq] at hc

end Characters

section Form

variable {text : List Char}

/-- The words of a text in Basic Latin are made small letter by letter. -/
theorem snakeChars_of_isBasic (h : ∀ c ∈ text, IsBasic c) :
    snakeChars text = ['_'].intercalate ((words text).map (List.map Char.toLower)) := by
  have hlower : (words text).map lowerChars = (words text).map (List.map Char.toLower) := by
    apply List.map_congr_left
    intro w hw
    exact lowerAfter_of_isBasic [] fun c hc => h c (mem_of_mem_words hw hc).1
  rw [snakeChars, hlower]

/-- The words of a text in Basic Latin become words of the pattern. -/
theorem map_toLower_mem_smallWord (h : ∀ c ∈ text, IsBasic c) {w : List Char}
    (hw : w ∈ words text) : w.map Char.toLower ∈ smallWord.matches' := by
  refine mem_smallWord.mpr ⟨by simpa using ne_nil_of_mem_words hw, ?_⟩
  intro d hd
  obtain ⟨c, hc, rfl⟩ := List.mem_map.mp hd
  obtain ⟨hmem, hseparator⟩ := mem_of_mem_words hw hc
  exact toLower_mem_smallChars (h c hmem) hseparator

/-- A text in Basic Latin is brought into the pattern, or nothing is left of it. -/
theorem snakeChars_mem_snakePattern (h : ∀ c ∈ text, IsBasic c) :
    snakeChars text = [] ∨ snakeChars text ∈ snakePattern.matches' := by
  rw [snakeChars_of_isBasic h]
  by_cases hwords : words text = []
  · exact .inl (by rw [hwords]; rfl)
  · refine .inr (mem_snakePattern.mpr ⟨_, by simpa using hwords, ?_, rfl⟩)
    intro w hw
    obtain ⟨w', hw', rfl⟩ := List.mem_map.mp hw
    exact map_toLower_mem_smallWord h hw'

/-- A text of the pattern is in Basic Latin. -/
theorem isBasic_of_mem_snakePattern (h : text ∈ snakePattern.matches') {c : Char} (hc : c ∈ text) :
    IsBasic c := by
  obtain ⟨ws, -, hws, rfl⟩ := mem_snakePattern.mp h
  rcases mem_of_mem_intercalate hc with hmark | ⟨w, hw, hmem⟩
  · rw [List.mem_singleton.mp hmark, IsBasic]
    decide
  · exact (of_mem_smallChars ((mem_smallWord.mp (hws w hw)).2 c hmem)).1

/-- A text of the pattern is left alone: it is cut at its low lines, and its words are small. -/
theorem snakeChars_of_mem_snakePattern (h : text ∈ snakePattern.matches') :
    snakeChars text = text := by
  rw [snakeChars_of_isBasic fun c hc => isBasic_of_mem_snakePattern h hc]
  obtain ⟨ws, -, hws, rfl⟩ := mem_snakePattern.mp h
  have hchar (w : List Char) (hw : w ∈ ws) (c : Char) (hc : c ∈ w) :=
    of_mem_smallChars ((mem_smallWord.mp (hws w hw)).2 c hc)
  have hwords : words (['_'].intercalate ws) = ws := by
    refine words_intercalate (by decide) fun w hw => ⟨(mem_smallWord.mp (hws w hw)).1, ?_⟩
    exact fun c hc => (hchar w hw c hc).2.2
  have hsmall : ws.map (List.map Char.toLower) = ws := by
    rw [List.map_congr_left fun w hw => ?_, List.map_id]
    rw [List.map_congr_left fun c hc => (hchar w hw c hc).2.1, List.map_id', id]
  rw [hwords, hsmall]

/-- Without their low lines, joined words without low lines are the words one after another. -/
private theorem filter_intercalate {ws : List (List Char)} (h : ∀ w ∈ ws, '_' ∉ w) :
    (['_'].intercalate ws).filter (· ≠ '_') = ws.flatten := by
  have hword (w : List Char) (hw : w ∈ ws) : w.filter (· ≠ '_') = w := by
    rw [List.filter_eq_self]
    intro c hc
    exact decide_eq_true fun he => h w hw (he ▸ hc)
  cases ws with
  | nil => rfl
  | cons w ws =>
      obtain ⟨hw, hws⟩ := List.forall_mem_cons.mp hword
      rw [intercalate_cons, List.filter_append, List.filter_flatMap, hw, List.flatten_cons,
        ← List.flatMap_id]
      congr 1
      apply List.flatMap_congr
      intro next hnext
      rw [List.filter_append, hws next hnext]
      rfl

/-- Without its low lines, the snake case of a text is the letters and digits of the text, made
small. -/
theorem filter_snakeChars (h : ∀ c ∈ text, IsBasic c) : (snakeChars text).filter (· ≠ '_') =
    (text.filter Char.isAlphanum).map Char.toLower := by
  have hmarks : ∀ w ∈ (words text).map (List.map Char.toLower), '_' ∉ w := by
    intro w hw hmem
    obtain ⟨w', hw', rfl⟩ := List.mem_map.mp hw
    have hsmall := (mem_smallWord.mp (map_toLower_mem_smallWord h hw')).2 '_' hmem
    exact absurd hsmall (by decide)
  have hkept : text.filter (fun c => !isSeparator c) = text.filter Char.isAlphanum := by
    apply List.filter_congr
    intro c hc
    rw [isSeparator_of_isBasic (h c hc), Bool.not_not]
  rw [snakeChars_of_isBasic h, filter_intercalate hmarks, ← List.map_flatten, flatten_words, hkept]

end Form

/-- A text in Basic Latin is brought into snake case. -/
theorem isSnake_snake {text : String} (h : ∀ c ∈ text.toList, IsBasic c) :
    IsSnake (snake text) := by
  rw [IsSnake, snake, String.toList_ofList]
  rcases snakeChars_mem_snakePattern h with hnil | hmem
  · exact .inl (by rw [hnil])
  · exact .inr hmem

/-- A text in snake case stays as it is. -/
theorem snake_of_isSnake {text : String} (h : IsSnake text) : snake text = text := by
  rcases h with rfl | h
  · rfl
  · rw [snake, snakeChars_of_mem_snakePattern h, String.ofList_toList]

/-- Snake case is a normal form in Basic Latin: every text is brought into it, the texts that are in
it are those that stay as they are, and it has the letters and digits of the text, made small. -/
theorem snake_normalizes {text : String} (h : ∀ c ∈ text.toList, IsBasic c) :
    IsSnake (snake text) ∧ (snake text = text ↔ IsSnake text) ∧
    snake (snake text) = snake text ∧
    (snake text).toList.filter (· ≠ '_') =
      (text.toList.filter Char.isAlphanum).map Char.toLower := by
  have hform := isSnake_snake h
  refine ⟨hform, ⟨?_, snake_of_isSnake⟩, snake_of_isSnake hform, ?_⟩
  · intro hself
    rwa [hself] at hform
  · rw [snake, String.toList_ofList, filter_snakeChars h]

/-- A text with every kind of boundary between words, and separators at both ends. -/
theorem snake_normalizes_boundaries :
    (∀ c ∈ "--getHTTPServer2Name the_5.".toList, IsBasic c) ∧
    snake "--getHTTPServer2Name the_5." = "get_http_server2_name_the_5" ∧
    IsSnake "get_http_server2_name_the_5" := by
  have hbasic : ∀ c ∈ "--getHTTPServer2Name the_5.".toList, IsBasic c := by
    have hall : "--getHTTPServer2Name the_5.".toList.all (·.toNat < 128) = true := by decide
    intro c hc
    have hlt := List.all_eq_true.mp hall c hc
    rwa [decide_eq_true_eq] at hlt
  have hvalue : snake "--getHTTPServer2Name the_5." = "get_http_server2_name_the_5" := by
    decide
  obtain ⟨hform, -⟩ := snake_normalizes hbasic
  exact ⟨hbasic, hvalue, hvalue ▸ hform⟩

end Phrasebook.Key
