import Phrasebook.Code.Line
import Phrasebook.Proofs.Text.Line
import Phrasebook.Proofs.Text.Unbroken

/-!
# Neat lines of code

A line of code is neat if it stays on one line and, unless it is empty, ends in a visible character.
Neat lines whose last one is not empty are found again in their text: it consists of these lines,
each ended by one line feed, and of nothing else.
-/

namespace Phrasebook.Code

open Text

/-- A line that stays one and does not end in blanks. -/
structure Line.Neat (l : Line) : Prop where
  /-- The line stays on one line. -/
  unbroken : Unbroken l.text
  /-- The line is empty or ends in a visible character. -/
  closed : l.text = "" ∨ Closed l.text

/-- Lines that are all neat. -/
def Neat (lines : List Line) : Prop := ∀ l ∈ lines, l.Neat

/-- Lines whose last one is not empty. -/
def Ends (lines : List Line) : Prop := ∃ before last, lines = before ++ [last] ∧ last.text ≠ ""

section Endings

variable {l : Line} {lines : List Line}

theorem ends_singleton (h : l.text ≠ "") : Ends [l] := ⟨[], l, rfl, h⟩

theorem Ends.append (h : Ends lines) (before : List Line) : Ends (before ++ lines) := by
  obtain ⟨lines', last, rfl, hlast⟩ := h
  exact ⟨before ++ lines', last, (List.append_assoc ..).symm, hlast⟩

theorem Ends.cons (h : Ends lines) (l : Line) : Ends (l :: lines) := h.append [l]

theorem Ends.indent (h : Ends lines) : Ends (indent lines) := by
  obtain ⟨before, last, rfl, hlast⟩ := h
  exact ⟨Code.indent before, ⟨last.depth + 1, last.text⟩, List.map_append, hlast⟩

theorem Ends.tail (h : Ends (l :: lines)) (hne : lines ≠ []) : Ends lines := by
  obtain ⟨before, last, hlines, hlast⟩ := h
  cases before with
  | nil => exact absurd (List.cons.inj hlines).2 hne
  | cons first before => exact ⟨before, last, (List.cons.inj hlines).2, hlast⟩

end Endings

section Lists

variable {l : Line} {lines lines' : List Line}

@[simp] theorem neat_nil : Neat [] := by
  intro l hl
  cases hl

@[simp] theorem neat_cons : Neat (l :: lines) ↔ l.Neat ∧ Neat lines := List.forall_mem_cons

@[simp] theorem neat_append : Neat (lines ++ lines') ↔ Neat lines ∧ Neat lines' :=
  List.forall_mem_append

@[simp] theorem neat_indent : Neat (indent lines) ↔ Neat lines := by
  simp only [Neat, indent, List.forall_mem_map]
  exact forall₂_congr fun l _ => ⟨fun h => ⟨h.1, h.2⟩, fun h => ⟨h.1, h.2⟩⟩

/-- A line of fixed characters is checked by these. -/
theorem neat_ofList {chars : List Char} (hunbroken : chars.all (fun c => !isLineBreak c) = true)
    (hclosed : chars.getLast?.all (fun c => !isBlank c) = true) :
    (line (String.ofList chars)).Neat := by
  refine ⟨.ofList hunbroken, ?_⟩
  cases hlast : chars.getLast? with
  | none =>
      left
      rw [List.getLast?_eq_none_iff.mp hlast]
      rfl
  | some c =>
      right
      rw [hlast] at hclosed
      exact .ofList (by rw [hlast]; exact hclosed)

@[simp] theorem neat_blank (count : Nat) : Neat (blank count) := by
  intro l hl
  rw [List.eq_of_mem_replicate hl]
  exact neat_ofList rfl rfl

theorem neat_flatMap {α : Type} {list : List α} {f : α → List Line} (h : ∀ a ∈ list, Neat (f a)) :
    Neat (list.flatMap f) := by
  intro l hl
  obtain ⟨a, ha, hl⟩ := List.mem_flatMap.mp hl
  exact h a ha l hl

/-- A line is neat if its text stays on one line and ends in a visible character. -/
theorem neat_line {text : String} (hunbroken : Unbroken text) (hclosed : Closed text) :
    (line text).Neat := ⟨hunbroken, .inr hclosed⟩

/-- A line that ends in fixed characters is checked by these, if the text before them stays on one
line. -/
theorem neat_append_ofList {text : String} {chars : List Char} (h : Unbroken text)
    (hunbroken : chars.all (fun c => !isLineBreak c) = true)
    (hclosed : chars.getLast?.any (fun c => !isBlank c) = true) :
    (line (text ++ String.ofList chars)).Neat :=
  neat_line (h.append (.ofList hunbroken)) (Closed.append (.ofList hclosed) _)

end Lists

section Rendering

variable {unit : String} {l : Line} {lines : List Line}

private theorem unbroken_repeated (hunit : Unbroken unit) (count : Nat) :
    Unbroken (repeated unit count) := by
  intro c hc
  rw [repeated, String.toList_join] at hc
  obtain ⟨text, htext, hc⟩ := List.mem_flatMap.mp hc
  rw [List.eq_of_mem_replicate htext] at hc
  exact hunit c hc

/-- A line stays empty, or ends as its text does. -/
theorem closed_render (h : l.Neat) : l.render unit = "" ∨ Closed (l.render unit) := by
  rw [Line.render]
  rcases h.closed with hempty | hclosed
  · exact .inl (if_pos hempty)
  · rw [if_neg hclosed.ne_empty]
    exact .inr (hclosed.append _)

theorem unbroken_render (hunit : Unbroken unit) (h : l.Neat) : Unbroken (l.render unit) := by
  rw [Line.render]
  split
  · exact .ofList rfl
  · exact (unbroken_repeated hunit _).append h.unbroken

theorem render_ne_empty (h : l.text ≠ "") : l.render unit ≠ "" := by
  rw [Line.render, if_neg h]
  simp [h]

theorem render_line (unit text : String) : (line text).render unit = text := by
  rw [Line.render]
  split
  · rename_i hempty
    exact hempty.symm
  · exact String.empty_append

/-- Lines whose last one is not empty are all kept. -/
theorem dropTrailingEmpty_append_singleton (lines : List String) {last : String} (h : last ≠ "") :
    dropTrailingEmpty (lines ++ [last]) = lines ++ [last] := by
  simp [dropTrailingEmpty, h]

/-- The text of lines ends each of them by a line feed. -/
theorem toList_joinLines (lines : List String) {last : String} (h : last ≠ "") :
    (joinLines (lines ++ [last])).toList =
      ((lines ++ [last]).map String.toList).flatMap (· ++ ['\n']) := by
  rw [joinLines, dropTrailingEmpty_append_singleton lines h]
  induction lines with
  | nil => simp
  | cons line rest ih =>
      obtain ⟨next, others, hnext⟩ : ∃ next others, rest ++ [last] = next :: others := by
        cases rest with
        | nil => exact ⟨last, [], rfl⟩
        | cons next others => exact ⟨next, others ++ [last], rfl⟩
      rw [hnext] at ih
      rw [List.cons_append, hnext, String.intercalate_cons_cons, List.map_cons, List.flatMap_cons,
        ← ih]
      simp

/-- A line that is not the last one stands before a line feed and the text of the others. -/
theorem render_cons (h : Ends lines) (l : Line) :
    render unit (l :: lines) = l.render unit ++ "\n" ++ render unit lines := by
  obtain ⟨before, last, rfl, hlast⟩ := h
  have hne : last.render unit ≠ "" := render_ne_empty hlast
  refine String.toList_inj.mp ?_
  simp only [render, List.map_cons, List.map_append, List.map_nil, ← List.cons_append,
    toList_joinLines _ hne, String.toList_append]
  simp

end Rendering

/-- The text of neat lines, the last one of which is not empty, is that of the lines, joined by line
feeds and ended by one. The lines are found again in it, and it does not end in an empty line. -/
theorem render_of_neat {unit : String} (hunit : Unbroken unit) {lines : List Line} (h : Neat lines)
    (hends : Ends lines) :
    render unit lines = "\n".intercalate (lines.map (Line.render unit)) ++ "\n" ∧
      splitLines (render unit lines).toList = lines.map (fun l => (l.render unit).toList) ∧
      ¬ ['\n', '\n'] <:+ (render unit lines).toList := by
  obtain ⟨before, last, hlines, hlast⟩ := hends
  have hne : last.render unit ≠ "" := render_ne_empty hlast
  have hmap : lines.map (Line.render unit) =
      before.map (Line.render unit) ++ [last.render unit] := by
    rw [hlines, List.map_append, List.map_singleton]
  have hchars : (render unit lines).toList =
      (lines.map fun l => (l.render unit).toList).flatMap (· ++ ['\n']) := by
    rw [render, hmap, toList_joinLines _ hne, ← hmap, List.map_map]
    rfl
  refine ⟨?_, ?_, ?_⟩
  · rw [render, joinLines, hmap, dropTrailingEmpty_append_singleton _ hne]
  · rw [hchars]
    refine splitLines_flatMap fun line hline hfeed => ?_
    obtain ⟨l, hl, rfl⟩ := List.mem_map.mp hline
    exact absurd (unbroken_render hunit (h l hl) _ hfeed) (by decide)
  · rintro ⟨start, hstart⟩
    have hmem : last ∈ lines := by simp [hlines]
    obtain ⟨c, hc, hblank⟩ := (closed_render (h last hmem)).resolve_left hne
    rw [hchars, hlines, List.map_append, List.flatMap_append, List.map_singleton,
      List.flatMap_singleton, ← List.append_assoc, List.append_cons start] at hstart
    have hcut := congrArg List.getLast? (List.append_cancel_right hstart)
    rw [List.getLast?_concat, List.getLast?_append, hc] at hcut
    obtain rfl := Option.some.inj hcut
    exact absurd hblank (by decide)

end Phrasebook.Code
