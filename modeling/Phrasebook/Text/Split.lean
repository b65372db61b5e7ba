/-!
# Cutting texts at a character

`splitOn` gives the parts between all occurrences of a character, `splitLast?` the parts before and
after the last one. Joining the parts by the character gives the text back.
-/

namespace Phrasebook.Text

/-- The parts of a text between the occurrences of a character. -/
def splitOn (mark : Char) : List Char → List (List Char)
  | [] => [[]]
  | c :: rest =>
    if c = mark then [] :: splitOn mark rest
    else match splitOn mark rest with
      | [] => [[c]]
      | part :: parts => (c :: part) :: parts

theorem splitOn_ne_nil (mark : Char) (text : List Char) : splitOn mark text ≠ [] := by
  cases text with
  | nil => simp [splitOn]
  | cons c rest =>
    rw [splitOn]
    split
    · simp
    · split <;> simp

/-- Joining the parts by the character gives the text back. -/
theorem intercalate_splitOn (mark : Char) (text : List Char) :
    [mark].intercalate (splitOn mark text) = text := by
  induction text with
  | nil => rfl
  | cons c rest ih =>
    rw [splitOn]
    cases h : splitOn mark rest with
    | nil => exact absurd h (splitOn_ne_nil mark rest)
    | cons part parts =>
      rw [h] at ih
      split
      · rename_i hc
        subst hc
        simpa [List.intercalate] using ih
      · cases parts <;> simp_all [List.intercalate]

/-- The parts before and after the last occurrence of a character. -/
def splitLast? (mark : Char) : List Char → Option (List Char × List Char)
  | [] => none
  | c :: rest =>
    match splitLast? mark rest with
    | some (before, after) => some (c :: before, after)
    | none => if c = mark then some ([], rest) else none

/-- A text has a last occurrence of a character exactly if it has one at all. -/
theorem splitLast?_eq_none_iff {mark : Char} {text : List Char} :
    splitLast? mark text = none ↔ mark ∉ text := by
  induction text with
  | nil => simp [splitLast?]
  | cons c rest ih =>
    rw [splitLast?]
    cases h : splitLast? mark rest with
    | some parts => simp_all
    | none =>
      rw [h] at ih
      by_cases hc : c = mark
      · simp [hc]
      · simp [hc, Ne.symm hc, ih.1 rfl]

/-- A text is cut where the character does not stand again. -/
theorem splitLast?_append {mark : Char} {after : List Char} (before : List Char)
    (h : mark ∉ after) : splitLast? mark (before ++ mark :: after) = some (before, after) := by
  induction before with
  | nil => simp [splitLast?, splitLast?_eq_none_iff.2 h]
  | cons c before ih => simp [splitLast?, ih]

/-- The two parts with the character between them are the text. -/
theorem append_of_splitLast? {mark : Char} {text before after : List Char}
    (h : splitLast? mark text = some (before, after)) : before ++ mark :: after = text := by
  induction text generalizing before with
  | nil => simp [splitLast?] at h
  | cons c rest ih =>
    rw [splitLast?] at h
    cases hr : splitLast? mark rest with
    | some parts =>
      rw [hr] at h ih
      obtain ⟨b, a⟩ := parts
      obtain ⟨rfl, rfl⟩ := Prod.mk.inj (Option.some.inj h)
      simpa using ih rfl
    | none =>
      rw [hr] at h
      by_cases hc : c = mark
      · simp only [hc, if_true] at h
        obtain ⟨rfl, rfl⟩ := Prod.mk.inj (Option.some.inj h)
        simp [hc]
      · simp [hc] at h

/-- The character does not stand behind its last occurrence. -/
theorem not_mem_of_splitLast? {mark : Char} {text before after : List Char}
    (h : splitLast? mark text = some (before, after)) : mark ∉ after := by
  induction text generalizing before with
  | nil => simp [splitLast?] at h
  | cons c rest ih =>
    rw [splitLast?] at h
    cases hr : splitLast? mark rest with
    | some parts =>
      rw [hr] at h ih
      obtain ⟨b, a⟩ := parts
      obtain ⟨rfl, rfl⟩ := Prod.mk.inj (Option.some.inj h)
      exact ih rfl
    | none =>
      rw [hr] at h
      by_cases hc : c = mark
      · simp only [hc, if_true] at h
        obtain ⟨rfl, rfl⟩ := Prod.mk.inj (Option.some.inj h)
        exact splitLast?_eq_none_iff.1 hr
      · simp [hc] at h

/-- The part after the last occurrence of a character, or the whole text. -/
def afterLast (mark : Char) (text : List Char) : List Char :=
  match splitLast? mark text with
  | some (_, after) => after
  | none => text

end Phrasebook.Text
