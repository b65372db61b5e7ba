import Mathlib.Data.List.Forall2
import Phrasebook.Proofs.Key

/-!
# Namespaces

An identifier joins the dotted parts of its key by two low lines, where the words of a part are
joined by one. Behind a low line of a part there always comes a letter or a digit of the next word.
So two low lines in a row cannot come from within a part, nor from the end of one, and the parts can
be told from the identifier, also where they are empty.
-/

namespace Phrasebook.Key

open Text

/-- Behind every low line of a text comes another character that is no low line. -/
def Spaced (text : List Char) : Prop :=
  ∀ before after, text = before ++ '_' :: after → ∃ c rest, after = c :: rest ∧ c ≠ '_'

/-- For every part of a key between its dots, whether it has a word. -/
def filledParts (key : String) : List Bool :=
  (splitOn '.' key.toList).map fun part => !(words part).isEmpty

section Parts

variable {part part' : List Char}

/-- A spaced text does not have two low lines in a row. -/
theorem Spaced.ne_append (h : Spaced part) (before after : List Char) :
    part ≠ before ++ '_' :: '_' :: after := by
  intro he
  obtain ⟨c, rest, hafter, hc⟩ := h before ('_' :: after) he
  exact hc (List.cons.inj hafter).1.symm

/-- A spaced text in front of two low lines does not go beyond another one. -/
theorem Spaced.length_le (h' : Spaced part') {rest rest' : List Char}
    (he : part ++ '_' :: '_' :: rest = part' ++ '_' :: '_' :: rest') :
    part'.length ≤ part.length := by
  rcases List.append_eq_append_iff.mp he with ⟨more, hpart, hmore⟩ | ⟨more, hpart, -⟩
  · cases more with
    | nil => simp [hpart]
    | cons c more =>
        -- The other text goes on with a low line, and then with a second one or not at all.
        obtain ⟨rfl, htail⟩ := List.cons.inj hmore
        obtain ⟨d, rest, rfl, hd⟩ := h' part more hpart
        exact absurd (List.cons.inj htail).1.symm hd
  · simp [hpart]

/-- Two low lines end a spaced text wherever they come first. -/
theorem Spaced.append_inj (h : Spaced part) (h' : Spaced part') {rest rest' : List Char}
    (he : part ++ '_' :: '_' :: rest = part' ++ '_' :: '_' :: rest') :
    part = part' ∧ rest = rest' := by
  have hlength : part.length = part'.length :=
    Nat.le_antisymm (h.length_le he.symm) (h'.length_le he)
  obtain ⟨hpart, htail⟩ := List.append_inj he hlength
  exact ⟨hpart, (List.cons.inj (List.cons.inj htail).2).2⟩

/-- Spaced texts that are joined by two low lines can be told apart. -/
private theorem eq_of_intercalate_eq {parts parts' : List (List Char)} (hne : parts ≠ [])
    (hne' : parts' ≠ []) (h : ∀ part ∈ parts, Spaced part) (h' : ∀ part ∈ parts', Spaced part)
    (he : ['_', '_'].intercalate parts = ['_', '_'].intercalate parts') : parts = parts' := by
  induction parts generalizing parts' with
  | nil => exact absurd rfl hne
  | cons part parts ih =>
      obtain ⟨part', parts', rfl⟩ := List.exists_cons_of_ne_nil hne'
      obtain ⟨hpart, hparts⟩ := List.forall_mem_cons.mp h
      obtain ⟨hpart', hparts'⟩ := List.forall_mem_cons.mp h'
      cases parts with
      | nil =>
          cases parts' with
          | nil => simpa using he
          | cons next parts' =>
              rw [List.intercalate_singleton, List.intercalate_cons_cons, List.append_assoc] at he
              exact absurd he (hpart.ne_append _ _)
      | cons next parts =>
          cases parts' with
          | nil =>
              rw [List.intercalate_singleton, List.intercalate_cons_cons, List.append_assoc] at he
              exact absurd he.symm (hpart'.ne_append _ _)
          | cons next' parts' =>
              rw [List.intercalate_cons_cons, List.intercalate_cons_cons, List.append_assoc,
                List.append_assoc] at he
              obtain ⟨rfl, hrest⟩ := hpart.append_inj hpart' he
              rw [ih (by simp) (by simp) hparts hparts' hrest]

end Parts

/-- Words without low lines are spaced when they are joined by single ones. -/
theorem spaced_intercalate {ws : List (List Char)} (h : ∀ w ∈ ws, w ≠ [] ∧ '_' ∉ w) :
    Spaced (['_'].intercalate ws) := by
  induction ws with
  | nil =>
      intro before after he
      simp at he
  | cons w ws ih =>
      obtain ⟨⟨-, hw⟩, hws⟩ := List.forall_mem_cons.mp h
      intro before after he
      cases ws with
      | nil =>
          rw [List.intercalate_singleton] at he
          exact absurd (he ▸ List.mem_append_right before (.head after)) hw
      | cons next ws =>
          obtain ⟨⟨hne, hnext⟩, -⟩ := List.forall_mem_cons.mp hws
          obtain ⟨c, rest, hfirst⟩ :
              ∃ c rest, ['_'].intercalate (next :: ws) = c :: rest ∧ c ≠ '_' := by
            obtain ⟨c, chars, rfl⟩ := List.exists_cons_of_ne_nil hne
            have hhead := head?_intercalate_cons ['_'] hne ws
            obtain ⟨rest, hrest⟩ := List.head?_eq_some_iff.mp hhead
            exact ⟨c, rest, hrest, fun hc => hnext (hc ▸ .head chars)⟩
          rw [List.intercalate_cons_cons, List.append_assoc, List.singleton_append] at he
          rcases List.append_eq_append_iff.mp he with ⟨more, -, htail⟩ | ⟨more, hsplit, htail⟩
          · cases more with
            | nil => exact ⟨c, rest, (List.cons.inj htail).2 ▸ hfirst.1, hfirst.2⟩
            | cons d more => exact ih hws more after (List.cons.inj htail).2
          · cases more with
            | nil => exact ⟨c, rest, (List.cons.inj htail).2.trans hfirst.1, hfirst.2⟩
            | cons d more =>
                obtain ⟨rfl, -⟩ := List.cons.inj htail
                exact absurd (hsplit ▸ List.mem_append_right before (.head more)) hw

/-- The snake case of a text is spaced. -/
theorem spaced_snakeChars (text : List Char) : Spaced (snakeChars text) := by
  apply spaced_intercalate
  intro w hw
  obtain ⟨word, hword, rfl⟩ := List.mem_map.mp hw
  exact ⟨lowerChars_ne_nil (ne_nil_of_mem_words hword), lowLine_not_mem_lowerChars hword⟩

/-- Nothing is left of a text in snake case exactly if it has no words. -/
theorem snakeChars_eq_nil_iff {text : List Char} : snakeChars text = [] ↔ words text = [] := by
  constructor
  · intro hnil
    cases hwords : words text with
    | nil => rfl
    | cons w ws =>
        have hmem : w ∈ words text := by simp [hwords]
        have hw : lowerChars w ≠ [] := lowerChars_ne_nil (ne_nil_of_mem_words hmem)
        have hhead := head?_intercalate_cons ['_'] hw (ws.map lowerChars)
        rw [← List.map_cons, ← hwords, ← snakeChars, hnil, eq_comm, List.head?_nil,
          List.head?_eq_none_iff] at hhead
        exact absurd hhead hw
  · intro hwords
    rw [snakeChars, hwords]
    rfl

/-- A text has one part more than it has marks. -/
private theorem length_splitOn (mark : Char) (text : List Char) :
    (splitOn mark text).length = text.count mark + 1 := by
  induction text with
  | nil => rfl
  | cons c rest ih =>
      rw [splitOn]
      by_cases hc : c = mark
      · rw [if_pos hc, List.length_cons, ih, hc, List.count_cons_self]
      · rw [if_neg hc, List.count_cons_of_ne hc, ← ih]
        cases hparts : splitOn mark rest with
        | nil => exact absurd hparts (splitOn_ne_nil mark rest)
        | cons part parts => rfl

/-- Keys give one identifier exactly if they have as many parts, and the parts agree in snake case
one by one. -/
theorem identifier_eq_iff {key key' : String} : identifier key = identifier key' ↔
    List.Forall₂ (fun part part' => snakeChars part = snakeChars part')
      (splitOn '.' key.toList) (splitOn '.' key'.toList) := by
  have hspaced (parts : List (List Char)) : ∀ part ∈ parts.map snakeChars, Spaced part := by
    intro part hpart
    obtain ⟨text, -, rfl⟩ := List.mem_map.mp hpart
    exact spaced_snakeChars text
  have hne (key : String) : (splitOn '.' key.toList).map snakeChars ≠ [] := by
    simpa using splitOn_ne_nil '.' key.toList
  rw [← List.forall₂_map_right_iff (R := fun part text => snakeChars part = text),
    ← List.forall₂_map_left_iff (f := snakeChars) (R := Eq), List.forall₂_eq_eq_eq, identifier,
    identifier, String.ofList_inj]
  constructor
  · exact eq_of_intercalate_eq (hne key) (hne key') (hspaced _) (hspaced _)
  · intro he
    rw [he]

/-- Keys that give one identifier have words in the same parts. -/
theorem filledParts_eq_of_identifier_eq {key key' : String}
    (h : identifier key = identifier key') : filledParts key = filledParts key' := by
  rw [filledParts, filledParts, ← List.forall₂_eq_eq_eq, List.forall₂_map_left_iff,
    List.forall₂_map_right_iff]
  refine (identifier_eq_iff.mp h).imp ?_
  intro part part' hsnake
  rw [Bool.eq_iff_iff]
  simp [← snakeChars_eq_nil_iff, hsnake]

/-- Keys give one identifier exactly if they have as many parts between their dots, and the parts
agree in snake case one by one. So keys with different numbers of dots never do, nor do keys of
which one has a word in a part where the other has none. -/
theorem identifier_keeps_namespaces (key key' : String) :
    (identifier key = identifier key' ↔
      List.Forall₂ (fun part part' => snakeChars part = snakeChars part')
        (splitOn '.' key.toList) (splitOn '.' key'.toList)) ∧
    (key.toList.count '.' ≠ key'.toList.count '.' → identifier key ≠ identifier key') ∧
    (filledParts key ≠ filledParts key' → identifier key ≠ identifier key') := by
  refine ⟨identifier_eq_iff, ?_, mt filledParts_eq_of_identifier_eq⟩
  intro hcount he
  have hlength := (identifier_eq_iff.mp he).length_eq
  rw [length_splitOn, length_splitOn] at hlength
  omega

/-- A dot is neither one low line nor two, and an empty part in front is not the same as none. -/
theorem identifier_keeps_namespaces_dots :
    identifier "a.b" ≠ identifier "a_b" ∧ identifier "a.b" ≠ identifier "a__b" ∧
    identifier "a.b" ≠ identifier "a..b" ∧ identifier ".a" ≠ identifier "a.b" := by
  obtain ⟨-, hline, -⟩ := identifier_keeps_namespaces "a.b" "a_b"
  obtain ⟨-, hlines, -⟩ := identifier_keeps_namespaces "a.b" "a__b"
  obtain ⟨-, hdots, -⟩ := identifier_keeps_namespaces "a.b" "a..b"
  obtain ⟨-, -, hempty⟩ := identifier_keeps_namespaces ".a" "a.b"
  exact ⟨hline (by decide), hlines (by decide), hdots (by decide), hempty (by decide)⟩

/-- Low lines alone are no structure: `a_b` and `a__b` have the same words in one part. -/
example : ["a.b", "a_b", "a__b", ".a", "a..b"].map identifier =
    ["a__b", "a_b", "a_b", "__a", "a____b"] := by
  decide

end Phrasebook.Key
