import Mathlib.Data.List.Basic
import Phrasebook.Text.Line

/-!
# Lines and their endings

Where every carriage return stands right before a line feed, unifying the line endings of a text
takes away nothing but these carriage returns. They stand at the ends of lines, where they are left
out as soon as a line is read. In any text, what stands within a line stays as it was. Lines without
a line feed are found again in the text that ends each of them by one. A run of characters of one
kind at the start of a line ends where another kind begins.
-/

namespace Phrasebook.Text

/-- Every carriage return of a text stands right before a line feed. -/
def PairedReturns (text : List Char) : Prop :=
  ∀ before after, text = before ++ '\r' :: after → after.head? = some '\n'

section Returns

theorem pairedReturns_nil : PairedReturns [] := by
  intro before after h
  simp at h

/-- A text is checked character by character. -/
theorem pairedReturns_cons {c : Char} {rest : List Char} :
    PairedReturns (c :: rest) ↔ (c = '\r' → rest.head? = some '\n') ∧ PairedReturns rest := by
  constructor
  · intro h
    refine ⟨fun hc => h [] rest (by rw [hc]; rfl), fun before after he => ?_⟩
    exact h (c :: before) after (by rw [he]; rfl)
  · rintro ⟨hc, hrest⟩ before after he
    cases before with
    | nil =>
        obtain ⟨rfl, rfl⟩ := List.cons.inj he
        exact hc rfl
    | cons d before =>
        obtain ⟨rfl, rfl⟩ := List.cons.inj he
        exact hrest before after rfl

instance decidablePairedReturns : (text : List Char) → Decidable (PairedReturns text)
  | [] => .isTrue pairedReturns_nil
  | c :: rest =>
    have := decidablePairedReturns rest
    decidable_of_iff ((c = '\r' → rest.head? = some '\n') ∧ PairedReturns rest)
      pairedReturns_cons.symm

/-- A carriage return at the end of a line is left out with the others. -/
private theorem chomp_append_return (line : List Char) : chomp (line ++ ['\r']) = chomp line := by
  simp [chomp]

/-- Unifying line endings changes lines at most by the carriage return at their end. -/
private theorem map_chomp_splitLinesAfter {text : List Char} (h : PairedReturns text)
    (line : List Char) :
    (splitLinesAfter line (unifyNewlines text)).map chomp =
      (splitLinesAfter line text).map chomp := by
  induction text using unifyNewlines.induct generalizing line with
  | case1 => rfl
  | case2 rest ih =>
      obtain ⟨-, hrest⟩ := pairedReturns_cons.mp h
      obtain ⟨-, hrest⟩ := pairedReturns_cons.mp hrest
      simp [unifyNewlines, splitLinesAfter, chomp_append_return, ih hrest]
  | case3 c rest hpair ih =>
      obtain ⟨hc, hrest⟩ := pairedReturns_cons.mp h
      have hne : c ≠ '\r' := by
        rintro rfl
        obtain ⟨after, rfl⟩ := List.head?_eq_some_iff.mp (hc rfl)
        exact hpair after rfl rfl
      rw [unifyNewlines, if_neg hne, splitLinesAfter, splitLinesAfter]
      · split
        · rw [List.map_cons, List.map_cons, ih hrest]
        · exact ih hrest _
      · exact hpair

theorem map_chomp_splitLines_unifyNewlines {text : List Char} (h : PairedReturns text) :
    (splitLines (unifyNewlines text)).map chomp = (splitLines text).map chomp :=
  map_chomp_splitLinesAfter h []

/-- Line endings are unified on both sides of a place alone, unless it lies inside one. -/
theorem unifyNewlines_append {before after : List Char}
    (h : before.getLast? = some '\r' → after.head? ≠ some '\n') :
    unifyNewlines (before ++ after) = unifyNewlines before ++ unifyNewlines after := by
  induction before using unifyNewlines.induct with
  | case1 => rfl
  | case2 rest ih =>
      have hrest : rest.getLast? = some '\r' → after.head? ≠ some '\n' := fun hlast =>
        h (by simp [List.getLast?_cons, hlast])
      simp [unifyNewlines, ih hrest]
  | case3 c rest hpair ih =>
      have hrest : rest.getLast? = some '\r' → after.head? ≠ some '\n' := fun hlast =>
        h (by simp [List.getLast?_cons, hlast])
      rw [List.cons_append, unifyNewlines, unifyNewlines, ih hrest, List.cons_append]
      · exact hpair
      · intro next hc hnext
        cases rest with
        | nil => exact h (by rw [hc]; rfl) (by rw [← List.nil_append after, hnext]; rfl)
        | cons d rest =>
            obtain ⟨rfl, -⟩ := List.cons.inj hnext
            exact hpair rest hc rfl

theorem getLast?_unifyNewlines (text : List Char) :
    (unifyNewlines text).getLast? = text.getLast?.map fun c => if c = '\r' then '\n' else c := by
  induction text using unifyNewlines.induct with
  | case1 => rfl
  | case2 rest ih => cases h : rest.getLast? <;> simp [unifyNewlines, List.getLast?_cons, ih, h]
  | case3 c rest hpair ih =>
      rw [unifyNewlines, List.getLast?_cons, List.getLast?_cons, ih]
      · cases rest.getLast? <;> rfl
      · exact hpair

private theorem prefix_of_prefix_unifyNewlines {part text : List Char} (hpart : '\n' ∉ part)
    (h : part <+: unifyNewlines text) : part <+: text := by
  induction text using unifyNewlines.induct generalizing part with
  | case1 => exact h
  | case2 rest ih =>
      rw [unifyNewlines, List.prefix_cons_iff] at h
      rcases h with rfl | ⟨part, rfl, -⟩
      · exact List.nil_prefix
      · exact absurd List.mem_cons_self hpart
  | case3 c rest hpair ih =>
      rw [unifyNewlines, List.prefix_cons_iff] at h
      · rcases h with rfl | ⟨part, rfl, h⟩
        · exact List.nil_prefix
        · rw [List.mem_cons, not_or] at hpart
          obtain ⟨hc, hpart⟩ := hpart
          have hreturn : c ≠ '\r' := fun he => hc (by rw [if_pos he])
          rw [if_neg hreturn, List.cons_prefix_cons]
          exact ⟨rfl, ih hpart h⟩
      · exact hpair

/-- Unifying line endings brings no characters together within a line. -/
theorem infix_of_infix_unifyNewlines {part text : List Char} (hpart : '\n' ∉ part)
    (h : part <:+: unifyNewlines text) : part <:+: text := by
  induction text using unifyNewlines.induct with
  | case1 => exact h
  | case2 rest ih =>
      rw [unifyNewlines, List.infix_cons_iff, ← unifyNewlines] at h
      rcases h with h | h
      · exact (prefix_of_prefix_unifyNewlines hpart h).isInfix
      · exact List.infix_cons (List.infix_cons (ih h))
  | case3 c rest hpair ih =>
      rw [unifyNewlines, List.infix_cons_iff, ← unifyNewlines] at h
      · rcases h with h | h
        · exact (prefix_of_prefix_unifyNewlines hpart h).isInfix
        · exact List.infix_cons (ih h)
      · exact hpair
      · exact hpair

end Returns

section Feeds

/-- Characters without a line feed belong to the line that is being read. -/
theorem splitLinesAfter_append {chars : List Char} (h : '\n' ∉ chars) (line rest : List Char) :
    splitLinesAfter line (chars ++ rest) = splitLinesAfter (chars.reverse ++ line) rest := by
  induction chars generalizing line with
  | nil => rfl
  | cons c chars ih =>
      rw [List.mem_cons, not_or] at h
      obtain ⟨hc, hchars⟩ := h
      rw [List.cons_append, splitLinesAfter, if_neg fun he => hc he.symm, ih hchars]
      simp

/-- Lines without a line feed are found again in the text that ends each of them by one. -/
theorem splitLines_flatMap {lines : List (List Char)} (h : ∀ line ∈ lines, '\n' ∉ line) :
    splitLines (lines.flatMap (· ++ ['\n'])) = lines := by
  induction lines with
  | nil => rfl
  | cons line rest ih =>
      obtain ⟨hline, hrest⟩ := List.forall_mem_cons.mp h
      have hnext : splitLinesAfter [] (rest.flatMap (· ++ ['\n'])) = rest := ih hrest
      rw [splitLines, List.flatMap_cons, List.append_assoc, splitLinesAfter_append hline,
        List.singleton_append, splitLinesAfter, if_pos rfl, hnext]
      simp

end Feeds

section Runs

variable {p : Char → Bool} {run rest : List Char}

/-- A run of characters of a kind is taken up to the first one of another kind. -/
theorem takeWhile_append_of_head? (hrun : ∀ c ∈ run, p c = true)
    (hrest : ∀ c, rest.head? = some c → p c = false) : (run ++ rest).takeWhile p = run := by
  rw [List.takeWhile_append_of_pos hrun]
  cases rest with
  | nil => simp
  | cons c rest => simp [hrest c rfl]

/-- A run of characters of a kind is left out up to the first one of another kind. -/
theorem dropWhile_append_of_head? (hrun : ∀ c ∈ run, p c = true)
    (hrest : ∀ c, rest.head? = some c → p c = false) : (run ++ rest).dropWhile p = rest := by
  rw [List.dropWhile_append_of_pos hrun]
  cases rest with
  | nil => rfl
  | cons c rest => simp [hrest c rfl]

/-- A line that ends in neither a carriage return nor a line feed is taken as it is. -/
theorem chomp_of_getLast? {line : List Char}
    (h : ∀ c, line.getLast? = some c → c ≠ '\r' ∧ c ≠ '\n') : chomp line = line := by
  have hend : line.reverse.dropWhile (fun c => c = '\r' ∨ c = '\n') = line.reverse := by
    refine dropWhile_append_of_head? (List.forall_mem_nil _) fun c hc => ?_
    have hlast : line.getLast? = some c := by rwa [← List.head?_reverse]
    simpa using h c hlast
  rw [chomp, hend, List.reverse_reverse]

end Runs

end Phrasebook.Text
