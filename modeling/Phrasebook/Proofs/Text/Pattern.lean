import Mathlib.Computability.RegularExpressions
import Mathlib.Data.List.DropRight
import Mathlib.Data.List.TakeWhile
import Phrasebook.Text.Blank

/-!
# Patterns

A pattern is a sequence of parts: a character, a run of characters of a kind, the end of the text. A
run may end at several places, and the pattern says whether the longest or the shortest one is tried
first. A match is searched for from the start of the text, part by part; where the parts behind one
do not match what it leaves, its next size is tried. Of all the ways in which a pattern matches, the
search gives the first one. Where it does not matter how a text is matched, a pattern is a regular
expression, and its words are those that match.
-/

namespace Phrasebook.Text

/-- A part of a pattern. -/
inductive Part
  /-- One character. -/
  | char (c : Char)
  /-- At least so many characters of a kind, as many as possible. -/
  | longest (kind : Char → Bool) (least : Nat)
  /-- At least so many characters of a kind, as few as possible. -/
  | shortest (kind : Char → Bool) (least : Nat)
  /-- A part whose text is kept. -/
  | group (part : Part)
  /-- The end of the text, or the place before the line feed that ends it. -/
  | final

/-- The sizes of a run at the start of a text, in ascending order. -/
def runSizes (kind : Char → Bool) (least : Nat) (text : List Char) : List Nat :=
  List.range' least ((text.takeWhile kind).length + 1 - least)

namespace Part

/-- How many characters of a text a part may take, in the order in which they are tried. -/
def sizes : Part → List Char → List Nat
  | .char c, text => if text.head? = some c then [1] else []
  | .longest kind least, text => (runSizes kind least text).reverse
  | .shortest kind least, text => runSizes kind least text
  | .group part, text => part.sizes text
  | .final, text => if text = [] ∨ text = ['\n'] then [0] else []

/-- The texts that are kept, after a part has taken one. -/
def keep : Part → List Char → List (List Char) → List (List Char)
  | .group _, taken, kept => taken :: kept
  | _, _, kept => kept

end Part

/-- The texts that the first match of a pattern keeps, if there is a match. -/
def firstMatch : List Part → List Char → Option (List (List Char))
  | [], _ => some []
  | part :: parts, text => (part.sizes text).findSome? fun n =>
    (firstMatch parts (text.drop n)).map (part.keep (text.take n))

/-- Parts that match no text which starts with a character of a kind. -/
def Refuse (parts : List Part) (kind : Char → Bool) : Prop :=
  ∀ c rest, kind c = true → firstMatch parts (c :: rest) = none

section Runs

variable {kind : Char → Bool} {text : List Char} {n : Nat}

/-- Behind a part of a run the run goes on. -/
private theorem exists_drop_eq_cons (h : n < (text.takeWhile kind).length) :
    ∃ c rest, text.drop n = c :: rest ∧ kind c = true := by
  have hlt : n < text.length := Nat.lt_of_lt_of_le h (List.takeWhile_sublist kind).length_le
  have hrun : text.takeWhile kind <+: text := List.takeWhile_prefix kind
  have hget : (text.takeWhile kind)[n] = text[n] := hrun.getElem h
  refine ⟨text[n], text.drop (n + 1), List.drop_eq_getElem_cons hlt, ?_⟩
  rw [← hget]
  exact List.mem_takeWhile_imp (List.getElem_mem h)

private theorem drop_length_takeWhile (kind : Char → Bool) (text : List Char) :
    text.drop (text.takeWhile kind).length = text.dropWhile kind := by
  have hsplit := List.takeWhile_append_dropWhile (p := kind) (l := text)
  calc text.drop (text.takeWhile kind).length
      = (text.takeWhile kind ++ text.dropWhile kind).drop (text.takeWhile kind).length := by
        rw [hsplit]
    _ = text.dropWhile kind := List.drop_left

private theorem take_length_takeWhile (kind : Char → Bool) (text : List Char) :
    text.take (text.takeWhile kind).length = text.takeWhile kind := by
  have hrun : text.takeWhile kind <+: text := List.takeWhile_prefix kind
  exact (List.prefix_iff_eq_take.mp hrun).symm

/-- A run reaches as far as all characters are of its kind. -/
theorem le_length_takeWhile_iff (hn : n ≤ text.length) :
    n ≤ (text.takeWhile kind).length ↔ ∀ c ∈ text.take n, kind c = true := by
  constructor
  · intro h c hc
    have hpart : text.take n <+: text.takeWhile kind := by
      rw [← take_length_takeWhile kind text]
      exact List.take_prefix_take_left h
    exact List.mem_takeWhile_imp (hpart.mem hc)
  · intro h
    by_contra hlt
    have hrun : text.take n <+: (text.take n ++ text.drop n).takeWhile kind := by
      rw [List.takeWhile_append_of_pos h]
      exact List.prefix_append _ _
    rw [List.take_append_drop] at hrun
    have hlength := hrun.length_le
    rw [List.length_take, Nat.min_eq_left hn] at hlength
    exact hlt hlength

end Runs

section Search

variable {kind : Char → Bool} {least : Nat} {parts : List Part} {text : List Char}

theorem firstMatch_char_cons (c : Char) (parts : List Part) (text : List Char) :
    firstMatch (.char c :: parts) (c :: text) = firstMatch parts text := by
  have hkeep : Part.keep (.char c) [c] = id := rfl
  simp [firstMatch, Part.sizes, hkeep]

theorem firstMatch_char_of_ne {c : Char} (h : text.head? ≠ some c) :
    firstMatch (.char c :: parts) text = none := by
  simp [firstMatch, Part.sizes, h]

/-- The longest run is tried first, then the shorter ones. -/
theorem sizes_longest (h : least ≤ (text.takeWhile kind).length) :
    (Part.longest kind least).sizes text = (text.takeWhile kind).length ::
      (List.range' least ((text.takeWhile kind).length - least)).reverse := by
  rw [Part.sizes, runSizes, Nat.succ_sub h, List.range'_1_concat, Nat.add_sub_cancel' h,
    List.reverse_append]
  rfl

/-- If only a whole run can succeed, the search succeeds with it or not at all. -/
private theorem findSome?_longest {α : Type} {f : Nat → Option α}
    (h : ∀ n < (text.takeWhile kind).length, f n = none) :
    ((Part.longest kind least).sizes text).findSome? f =
      if least ≤ (text.takeWhile kind).length then f (text.takeWhile kind).length else none := by
  split
  · rename_i hle
    have hshorter : (List.range' least ((text.takeWhile kind).length - least)).reverse.findSome? f =
        none := by
      rw [List.findSome?_eq_none_iff]
      intro n hn
      rw [List.mem_reverse, List.mem_range'_1] at hn
      exact h n (by omega)
    rw [sizes_longest hle, List.findSome?_cons, hshorter]
    cases f (text.takeWhile kind).length <;> rfl
  · rename_i hlt
    rw [Part.sizes, runSizes, Nat.sub_eq_zero_of_le (by omega)]
    rfl

/-- Parts that cannot begin with a run do not match behind a part of it. -/
theorem Refuse.firstMatch_drop (h : Refuse parts kind) {n : Nat}
    (hn : n < (text.takeWhile kind).length) : firstMatch parts (text.drop n) = none := by
  obtain ⟨c, rest, hdrop, hc⟩ := exists_drop_eq_cons hn
  rw [hdrop, h c rest hc]

/-- A run in front of parts that cannot begin with it is taken as a whole. -/
theorem firstMatch_longest (h : Refuse parts kind) :
    firstMatch (.longest kind least :: parts) text =
      if least ≤ (text.takeWhile kind).length then firstMatch parts (text.dropWhile kind)
      else none := by
  rw [firstMatch, findSome?_longest]
  · rw [drop_length_takeWhile]
    split
    · exact Option.map_id'
    · rfl
  · intro n hn
    rw [h.firstMatch_drop hn]
    rfl

/-- A run that is kept, in front of parts that cannot begin with it, is kept as a whole. -/
theorem firstMatch_group_longest (h : Refuse parts kind) :
    firstMatch (.group (.longest kind least) :: parts) text =
      if least ≤ (text.takeWhile kind).length then
        (firstMatch parts (text.dropWhile kind)).map (text.takeWhile kind :: ·)
      else none := by
  rw [firstMatch, Part.sizes, findSome?_longest]
  · rw [drop_length_takeWhile, take_length_takeWhile]
    rfl
  · intro n hn
    rw [h.firstMatch_drop hn]
    rfl

/-- A run of at least one character refuses what is of no such kind. -/
theorem Refuse.group_longest {other : Char → Bool} (h : ∀ c, other c = true → kind c = false) :
    Refuse (.group (.longest kind 1) :: parts) other := by
  intro c rest hc
  simp [firstMatch, Part.sizes, runSizes, h c hc]

/-- An optional run passes on what it does not take. -/
theorem Refuse.longest {other : Char → Bool} (h : ∀ c, other c = true → kind c = false)
    (hparts : Refuse parts other) : Refuse (.longest kind 0 :: parts) other := by
  intro c rest hc
  have hnone := hparts c rest hc
  simp [firstMatch, Part.sizes, runSizes, h c hc, hnone]

theorem Refuse.char {c : Char} (h : kind c = false) : Refuse (.char c :: parts) kind := by
  intro d rest hd
  refine firstMatch_char_of_ne fun hhead => ?_
  obtain rfl := Option.some.inj hhead
  rw [hd] at h
  cases h

/-- Among ascending numbers, the first one from a bound on is found. -/
theorem findSome?_range'_from {α : Type} (g : Nat → α) (bound start count : Nat) :
    (List.range' start count).findSome? (fun n => if bound ≤ n then some (g n) else none) =
      if max start bound < start + count then some (g (max start bound)) else none := by
  induction count generalizing start with
  | zero => rw [if_neg (by omega), List.range'_zero, List.findSome?_nil]
  | succ count ih =>
      rw [List.range'_succ, List.findSome?_cons]
      by_cases hstart : bound ≤ start
      · rw [if_pos hstart, Nat.max_eq_left hstart, if_pos (by omega)]
      · have hmax : max (start + 1) bound = max start bound := by omega
        have hcount : start + 1 + count = start + (count + 1) := by omega
        rw [if_neg hstart, ih, hmax, hcount]

end Search

section Regular

open RegularExpression

/-- The words of one of some characters. -/
def oneOf (chars : List Char) : RegularExpression Char := (chars.map char).foldr (· + ·) 0

theorem mem_char {c : Char} {word : List Char} : word ∈ (char c).matches' ↔ word = [c] := Iff.rfl

theorem mem_oneOf {chars word : List Char} :
    word ∈ (oneOf chars).matches' ↔ ∃ c ∈ chars, word = [c] := by
  induction chars with
  | nil => simp [oneOf]
  | cons c chars ih =>
      rw [oneOf, List.map_cons, List.foldr_cons, ← oneOf, matches'_add, Language.mem_add, ih,
        mem_char]
      simp

/-- The words of any number of some characters. -/
theorem mem_star_oneOf {chars word : List Char} :
    word ∈ (oneOf chars).star.matches' ↔ ∀ c ∈ word, c ∈ chars := by
  rw [matches'_star, Language.mem_kstar]
  constructor
  · rintro ⟨words, rfl, hwords⟩ c hc
    obtain ⟨word, hword, hc⟩ := List.mem_flatten.mp hc
    obtain ⟨d, hd, rfl⟩ := mem_oneOf.mp (hwords word hword)
    rw [List.mem_singleton.mp hc]
    exact hd
  · intro h
    refine ⟨word.map ([·]), (List.flatMap_singleton' word).symm, fun part hpart => ?_⟩
    obtain ⟨c, hc, rfl⟩ := List.mem_map.mp hpart
    exact mem_oneOf.mpr ⟨c, h c hc, rfl⟩

/-- The words of at least one of some characters. -/
theorem mem_oneOf_mul_star {chars word : List Char} :
    word ∈ (oneOf chars * (oneOf chars).star).matches' ↔ word ≠ [] ∧ ∀ c ∈ word, c ∈ chars := by
  rw [matches'_mul, Language.mem_mul]
  constructor
  · rintro ⟨_, hfirst, rest, hrest, rfl⟩
    obtain ⟨c, hc, rfl⟩ := mem_oneOf.mp hfirst
    exact ⟨by simp, List.forall_mem_cons.mpr ⟨hc, mem_star_oneOf.mp hrest⟩⟩
  · rintro ⟨hne, hchars⟩
    obtain ⟨c, rest, rfl⟩ := List.exists_cons_of_ne_nil hne
    obtain ⟨hc, hrest⟩ := List.forall_mem_cons.mp hchars
    exact ⟨[c], mem_oneOf.mpr ⟨c, hc, rfl⟩, rest, mem_star_oneOf.mpr hrest, rfl⟩

end Regular

end Phrasebook.Text
