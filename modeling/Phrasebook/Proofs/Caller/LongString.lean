import Mathlib.Order.Bounds.Defs
import Phrasebook.Caller.Scan
import Phrasebook.Proofs.Text.Line

/-!
# Strings between triple marks

A string between triple marks ends at the first three marks of which a backslash takes none, where
a backslash takes the next character with it unless it is taken itself. The rule speaks of places in
the text; the reader of strings keeps it. Characters without three marks in a row, the last of which
is neither a mark nor a backslash, can be put between triple marks: the string ends at the marks
that were put behind them, whatever follows. So they are one token, and a new line starts behind it.
-/

namespace Phrasebook.Caller

open Text

/-- Whether the character at a place is taken by the one before it, a backslash that is not taken
itself. -/
def isTaken (text : List Char) : Nat → Bool
  | 0 => false
  | i + 1 => !isTaken text i && text[i]? == some '\\'

/-- Three marks stand at a place, and none of them is taken. -/
def Closes (mark : Char) (text : List Char) (i : Nat) : Prop :=
  ∀ k < 3, text[i + k]? = some mark ∧ isTaken text (i + k) = false

/-- The body of a string at the start of a text, behind its opening marks, ends at a place. -/
def EndsAt (mark : Char) (text : List Char) (i : Nat) : Prop := IsLeast {j | Closes mark text j} i

section Rule

variable {mark c : Char} {text rest : List Char} {i : Nat}

private theorem isTaken_succ_of_ne (h : text[i]? ≠ some '\\') : isTaken text (i + 1) = false := by
  simp [isTaken, h]

private theorem isTaken_cons (h : c ≠ '\\') (i : Nat) :
    isTaken (c :: rest) (i + 1) = isTaken rest i := by
  induction i with
  | zero => exact isTaken_succ_of_ne (by simpa using h)
  | succ i ih => rw [isTaken, ih, List.getElem?_cons_succ, isTaken]

private theorem isTaken_escaped (c : Char) (rest : List Char) (i : Nat) :
    isTaken ('\\' :: c :: rest) (i + 2) = isTaken rest i := by
  induction i with
  | zero => simp [isTaken]
  | succ i ih => rw [isTaken, ih, List.getElem?_cons_succ, List.getElem?_cons_succ, isTaken]

/-- Behind a character that is no backslash the rule starts anew. -/
theorem closes_cons (h : c ≠ '\\') : Closes mark (c :: rest) (i + 1) ↔ Closes mark rest i := by
  refine forall₂_congr fun k _ => ?_
  rw [Nat.add_right_comm, isTaken_cons h, List.getElem?_cons_succ]

/-- Behind a backslash and the character that it takes the rule starts anew. -/
theorem closes_escaped : Closes mark ('\\' :: c :: rest) (i + 2) ↔ Closes mark rest i := by
  refine forall₂_congr fun k _ => ?_
  rw [Nat.add_right_comm, isTaken_escaped, List.getElem?_cons_succ, List.getElem?_cons_succ]

/-- As marks take nothing, only the first of the three could be taken. -/
theorem closes_iff (hmark : mark ≠ '\\') :
    Closes mark text i ↔ [mark, mark, mark] <+: text.drop i ∧ isTaken text i = false := by
  have hthree : [mark, mark, mark] <+: text.drop i ↔ ∀ k < 3, text[i + k]? = some mark := by
    change List.replicate 3 mark <+: text.drop i ↔ _
    simp only [List.prefix_iff_getElem?, List.length_replicate, List.getElem_replicate,
      List.getElem?_drop]
  rw [hthree]
  constructor
  · intro h
    exact ⟨fun k hk => (h k hk).1, (h 0 (by decide)).2⟩
  · rintro ⟨hmarks, hfirst⟩ k hk
    refine ⟨hmarks k hk, ?_⟩
    cases k with
    | zero => exact hfirst
    | succ k =>
        have hbefore := hmarks k (by omega)
        rw [← Nat.add_assoc]
        exact isTaken_succ_of_ne (by simpa [hbefore] using hmark)

private theorem closes_zero (hmark : mark ≠ '\\') :
    Closes mark text 0 ↔ [mark, mark, mark] <+: text := by
  simp [closes_iff hmark, isTaken]

/-- A backslash and the character that it takes close nothing. -/
private theorem two_le_of_closes_escaped (hmark : mark ≠ '\\')
    (h : Closes mark ('\\' :: c :: rest) i) : 2 ≤ i := by
  by_contra hi
  obtain rfl | rfl : i = 0 ∨ i = 1 := by omega
  · exact hmark (by simpa using ((h 0 (by decide)).1).symm)
  · simpa [isTaken] using (h 0 (by decide)).2

/-- A string goes on behind a character that neither takes the next one nor starts closing marks. -/
theorem endsAt_cons (hc : c ≠ '\\') (hopen : ¬ Closes mark (c :: rest) 0) :
    EndsAt mark (c :: rest) (i + 1) ↔ EndsAt mark rest i := by
  refine and_congr (closes_cons hc) ⟨fun h j hj => ?_, fun h j hj => ?_⟩
  · exact Nat.le_of_succ_le_succ (h ((closes_cons hc).mpr hj))
  · cases j with
    | zero => exact absurd hj hopen
    | succ j => exact Nat.succ_le_succ (h ((closes_cons hc).mp hj))

/-- A string goes on behind a backslash and the character that it takes. -/
theorem endsAt_escaped (hmark : mark ≠ '\\') :
    EndsAt mark ('\\' :: c :: rest) (i + 2) ↔ EndsAt mark rest i := by
  refine and_congr closes_escaped ⟨fun h j hj => ?_, fun h j hj => ?_⟩
  · exact Nat.le_of_add_le_add_right (h (closes_escaped.mpr hj))
  · obtain ⟨j, rfl⟩ := Nat.exists_eq_add_of_le' (two_le_of_closes_escaped hmark hj)
    exact Nat.add_le_add_right (h (closes_escaped.mp hj)) 2

private theorem endsAt_zero : EndsAt mark text 0 ↔ Closes mark text 0 :=
  ⟨fun h => h.1, fun h => ⟨h, fun _ _ => Nat.zero_le _⟩⟩

end Rule

section Reader

variable {mark : Char} {text body after : List Char}

/-- The reader of strings keeps the rule. -/
theorem longBody?_eq_some_iff (hmark : mark ≠ '\\') :
    longBody? mark text = some (body, after) ↔
      text = body ++ ([mark, mark, mark] ++ after) ∧ EndsAt mark text body.length := by
  fun_induction longBody? mark text generalizing body with
  | case1 => simp
  | case2 c rest ih =>
      simp only [Option.map_eq_some_iff, Prod.mk.injEq, Prod.exists]
      constructor
      · rintro ⟨body', after', hread, rfl, rfl⟩
        obtain ⟨rfl, hends⟩ := ih.mp hread
        exact ⟨rfl, (endsAt_escaped hmark).mpr hends⟩
      · rintro ⟨htext, hends⟩
        have hlength := two_le_of_closes_escaped hmark hends.1
        rcases body with - | ⟨a, - | ⟨b, body⟩⟩
        · exact absurd hlength (by decide)
        · exact absurd hlength (Nat.not_succ_le_self 1)
        · obtain ⟨rfl, rfl, hrest⟩ : '\\' = a ∧ c = b ∧ _ := by simpa using htext
          exact ⟨body, after, ih.mpr ⟨hrest, (endsAt_escaped hmark).mp hends⟩, rfl, rfl⟩
  | case3 c rest hpair hclose =>
      obtain ⟨tail, htail⟩ := List.isPrefixOf_iff_prefix.mp hclose
      obtain ⟨rfl, rfl⟩ := List.cons.inj htail
      have hends : EndsAt mark (mark :: ([mark, mark] ++ tail)) 0 :=
        endsAt_zero.mpr ((closes_zero hmark).mpr ⟨tail, rfl⟩)
      constructor
      · rintro ⟨⟩
        exact ⟨rfl, hends⟩
      · rintro ⟨htext, hbody⟩
        obtain rfl := List.eq_nil_of_length_eq_zero (Nat.le_zero.mp (hbody.2 hends.1))
        simpa using htext
  | case4 c rest hpair hclose ih =>
      have hopen : ¬ Closes mark (c :: rest) 0 := fun h =>
        hclose (List.isPrefixOf_iff_prefix.mpr ((closes_zero hmark).mp h))
      -- A backslash that takes nothing is the end of the text, so no marks follow it.
      have hlone (hc : c = '\\') : rest = [] := by
        cases rest with
        | nil => rfl
        | cons d rest => exact absurd rfl (hpair d rest hc)
      simp only [Option.map_eq_some_iff, Prod.mk.injEq, Prod.exists]
      constructor
      · rintro ⟨body', after', hread, rfl, rfl⟩
        have hc : c ≠ '\\' := by
          intro hc
          rw [hlone hc] at hread
          cases hread
        obtain ⟨rfl, hends⟩ := ih.mp hread
        exact ⟨rfl, (endsAt_cons hc hopen).mpr hends⟩
      · rintro ⟨htext, hends⟩
        cases body with
        | nil => exact absurd hends.1 hopen
        | cons a body =>
            obtain ⟨rfl, hrest⟩ := List.cons.inj htext
            have hc : c ≠ '\\' := by
              intro hc
              simp [hlone hc] at hrest
            exact ⟨body, after, ih.mpr ⟨hrest, (endsAt_cons hc hopen).mp hends⟩, rfl, rfl⟩

end Reader

/-- Characters that can be put between triple marks. -/
structure Enclosable (mark : Char) (body : List Char) : Prop where
  /-- They do not close the string themselves. -/
  triple : ¬ [mark, mark, mark] <:+: body
  /-- Their last one neither takes a closing mark nor passes for one. -/
  last : ∀ c, body.getLast? = some c → c ≠ mark ∧ c ≠ '\\'

section Enclosing

variable {mark : Char} {body : List Char}

/-- The last character is still neither a mark nor a backslash when something follows. -/
theorem Enclosable.getElem?_append (h : Enclosable mark body) {i : Nat} (hi : i + 1 = body.length)
    (rest : List Char) : (body ++ rest)[i]? ≠ some mark ∧ (body ++ rest)[i]? ≠ some '\\' := by
  have hlast : (body ++ rest)[i]? = body.getLast? := by
    rw [List.getElem?_append_left (by omega), List.getLast?_eq_getElem?, ← hi, Nat.add_sub_cancel]
  rw [hlast]
  exact ⟨fun hc => (h.last _ hc).1 rfl, fun hc => (h.last _ hc).2 rfl⟩

/-- A string ends at the marks that were put behind its body, whatever follows. -/
theorem Enclosable.endsAt (h : Enclosable mark body) (hmark : mark ≠ '\\') (after : List Char) :
    EndsAt mark (body ++ ([mark, mark, mark] ++ after)) body.length := by
  constructor
  · refine (closes_iff hmark).mpr ⟨?_, ?_⟩
    · rw [List.drop_left]
      exact List.prefix_append _ _
    · cases hlength : body.length with
      | zero => rfl
      | succ i => exact isTaken_succ_of_ne (h.getElem?_append hlength.symm _).2
  · intro i hi
    by_contra hbefore
    -- Closing marks before the end stand in the body, or the last character is one of them.
    by_cases hinside : i + 3 ≤ body.length
    · obtain ⟨hmarks, -⟩ := (closes_iff hmark).mp hi
      rw [List.drop_append_of_le_length (by omega)] at hmarks
      have hbody : [mark, mark, mark] <+: body.drop i :=
        List.prefix_of_prefix_length_le hmarks (List.prefix_append _ _)
          (by rw [List.length_drop]; exact Nat.le_sub_of_add_le' hinside)
      exact h.triple (hbody.isInfix.trans (List.drop_suffix i body).isInfix)
    · obtain ⟨k, hk⟩ : ∃ k, i + k + 1 = body.length := ⟨body.length - 1 - i, by omega⟩
      exact (h.getElem?_append hk _).1 (hi k (by omega)).1

theorem Enclosable.longBody?_append (h : Enclosable mark body) (hmark : mark ≠ '\\')
    (after : List Char) :
    longBody? mark (body ++ ([mark, mark, mark] ++ after)) = some (body, after) :=
  (longBody?_eq_some_iff hmark).mpr ⟨rfl, h.endsAt hmark after⟩

/-- Characters between triple marks. -/
def enclosed (mark : Char) (body : List Char) : List Char :=
  [mark, mark, mark] ++ (body ++ [mark, mark, mark])

theorem getLast?_enclosed (mark : Char) (body : List Char) :
    (enclosed mark body).getLast? = some mark := by
  rw [enclosed, ← List.append_assoc, List.getLast?_append]
  rfl

/-- The reader finds the body that was put between triple marks, and what follows. -/
theorem Enclosable.stringBody?_enclosed (h : Enclosable mark body) (hmark : mark ≠ '\\')
    (after : List Char) :
    stringBody? mark ((enclosed mark body).tail ++ after) = some (body, after) := by
  have hopening : (enclosed mark body).tail ++ after =
      [mark, mark] ++ (body ++ ([mark, mark, mark] ++ after)) := by
    simp [enclosed]
  rw [hopening, stringBody?, if_pos (List.isPrefixOf_iff_prefix.mpr (List.prefix_append _ _))]
  exact h.longBody?_append hmark after

-- A last backslash would take the first of the closing marks, and the string would not end there.
example : stringBody? '"' ['"', '"', '\\', '"', '"', '"', 'x'] = none := by decide

end Enclosing

section Newlines

/-- Unified line endings neither close a string nor change its last character to a mark or a
backslash. -/
theorem Enclosable.unifyNewlines {mark : Char} {body : List Char} (h : Enclosable mark body)
    (hmark : mark ≠ '\n') : Enclosable mark (unifyNewlines body) where
  triple hmarks := h.triple (infix_of_infix_unifyNewlines (by simpa using hmark.symm) hmarks)
  last c hc := by
    rw [getLast?_unifyNewlines] at hc
    obtain ⟨d, hd, rfl⟩ := Option.map_eq_some_iff.mp hc
    split
    · exact ⟨hmark.symm, by decide⟩
    · exact h.last d hd

theorem unifyNewlines_enclosed (body : List Char) :
    unifyNewlines (enclosed quotationMark body) =
      enclosed quotationMark (unifyNewlines body) := by
  rw [enclosed, unifyNewlines_append (fun h => absurd h (by decide)),
    unifyNewlines_append (fun _ => by decide)]
  rfl

/-- Whether a text ends in a carriage return and a line feed is seen at its last part. -/
private theorem isPrefixOf_reverse_append {before code : List Char}
    (hbefore : before.getLast? ≠ some '\r') (hcode : code ≠ []) :
    ['\n', '\r'].isPrefixOf (before ++ code).reverse = ['\n', '\r'].isPrefixOf code.reverse := by
  rw [← List.head?_reverse] at hbefore
  rw [List.reverse_append]
  rcases hreverse : code.reverse with - | ⟨a, - | ⟨b, rest⟩⟩
  · exact absurd (List.reverse_eq_nil_iff.mp hreverse) hcode
  · generalize before.reverse = start at hbefore ⊢
    cases start with
    | nil => rfl
    | cons d start =>
        have hd : ('\r' == d) = false := by
          refine beq_eq_false_iff_ne.mpr fun he => hbefore ?_
          rw [he, List.head?_cons]
        simp [List.isPrefixOf, hd]
  · simp [List.isPrefixOf]

/-- Lines are closed at the end of a text; before it their endings are unified only. -/
theorem closeLines_append {before code : List Char} (hbefore : before.getLast? ≠ some '\r')
    (hcode : code ≠ []) :
    closeLines (before ++ code) = unifyNewlines before ++ closeLines code := by
  have hunify : unifyNewlines (before ++ code) = unifyNewlines before ++ unifyNewlines code :=
    unifyNewlines_append fun h => absurd h hbefore
  have hlast : (unifyNewlines before ++ unifyNewlines code).getLast? =
      (unifyNewlines code).getLast? := by
    rw [List.getLast?_append, getLast?_unifyNewlines code, List.getLast?_eq_some_getLast hcode]
    rfl
  rw [closeLines, closeLines, hunify, hlast, isPrefixOf_reverse_append hbefore hcode]
  split
  · rfl
  · rw [List.append_assoc]

end Newlines

section Tokens

variable {s : Scanner} {body : List Char}

theorem Scanner.brackets_advance (s : Scanner) (chars : List Char) :
    (s.advance chars).brackets = s.brackets := by
  induction chars generalizing s with
  | nil => rfl
  | cons c chars ih =>
      rw [Scanner.advance, ih]
      split <;> rfl

/-- A line that holds a remark alone is skipped. -/
theorem scanLine_remark (fuel : Nat) (s : Scanner) {remark : List Char} (h : '\n' ∉ remark)
    (rest : List Char) :
    scanLine (fuel + 1) s ('#' :: remark ++ '\n' :: rest) =
      scanLine fuel { s with line := s.line + 1, column := 0 } rest := by
  have hdrop : ('#' :: remark ++ '\n' :: rest).dropWhile (· ≠ '\n') = '\n' :: rest := by
    refine dropWhile_append_of_head? (fun c hc => ?_) fun c hc => ?_
    · rcases List.mem_cons.mp hc with rfl | hc
      · rfl
      · exact decide_eq_true fun he => h (he ▸ hc)
    · obtain rfl := Option.some.inj hc
      rfl
  have hmeasure : measure s 0 0 ('#' :: remark ++ '\n' :: rest) =
      (s, 0, 0, '#' :: remark ++ '\n' :: rest) := rfl
  rw [scanLine, hmeasure]
  simp only [List.cons_append] at hdrop ⊢
  simp only [hdrop]

/-- A line that starts with a quotation mark has no depth. -/
private theorem scanLine_quotationMark (fuel : Nat) (hdepths : s.depths = []) (rest : List Char) :
    scanLine (fuel + 2) s (quotationMark :: rest) = scanWords fuel s (quotationMark :: rest) := by
  have hmeasure : measure s 0 0 (quotationMark :: rest) = (s, 0, 0, quotationMark :: rest) := rfl
  have hindentation : indentation s 0 0 = .ok ([], s.depths) := by
    rw [indentation, Scanner.depth, hdepths]
    rfl
  rw [scanLine, hmeasure]
  simp only [quotationMark]
  rw [scanIndented, hindentation]
  rfl

private theorem scanWords_quotationMark (fuel : Nat) (s : Scanner) (rest : List Char) :
    scanWords (fuel + 1) s (quotationMark :: rest) =
      scanString fuel s "" quotationMark rest (quotationMark :: rest) := by
  have hdigit : ¬ (quotationMark.isDigit = true ∨
      quotationMark = '.' ∧ rest.head?.any Char.isDigit = true) := by
    rintro (h | ⟨h, -⟩)
    · exact absurd h (by decide)
    · exact absurd h (by decide)
  unfold scanWords
  rw [if_neg (by decide), if_neg (by decide), if_neg (by decide), if_neg (by decide),
    if_neg (by decide), if_neg hdigit, if_pos (by decide)]

private theorem scanWords_newline (fuel : Nat) (hbrackets : s.brackets = []) (rest : List Char) :
    scanWords (fuel + 1) s ('\n' :: rest) =
      s.token .newline :: scanLine fuel (s.advance ['\n']) rest := by
  unfold scanWords
  rw [if_neg (by decide), if_neg (by decide), if_pos rfl, hbrackets]
  rfl

/-- The string that was put between triple quotation marks is one token. -/
private theorem scanString_enclosed (fuel : Nat) (s : Scanner) (h : Enclosable quotationMark body)
    (next : List Char) :
    scanString (fuel + 1) s "" quotationMark ((enclosed quotationMark body).tail ++ next)
        (enclosed quotationMark body ++ next) =
      s.token (.string false (soundCharacters body)) ::
        scanWords fuel (s.advance (enclosed quotationMark body)) next := by
  have hconsumed : (enclosed quotationMark body ++ next).take
      ((enclosed quotationMark body ++ next).length - next.length) =
        enclosed quotationMark body := by
    rw [List.length_append, Nat.add_sub_cancel, List.take_left]
  rw [scanString, h.stringBody?_enclosed (by decide) next]
  simp only [hconsumed]
  rfl

/-- A line that holds a string between triple quotation marks alone is one token, and what stands
behind the line is cut as if no string were before it. -/
theorem scanLine_enclosed (fuel : Nat) (hdepths : s.depths = []) (hbrackets : s.brackets = [])
    (h : Enclosable quotationMark body) (code : List Char) :
    scanLine (fuel + 5) s (enclosed quotationMark body ++ '\n' :: code) =
      s.token (.string false (soundCharacters body)) ::
        (s.advance (enclosed quotationMark body)).token .newline ::
        scanLine fuel ((s.advance (enclosed quotationMark body)).advance ['\n']) code := by
  have hstart (rest : List Char) : enclosed quotationMark body ++ rest =
      quotationMark :: ((enclosed quotationMark body).tail ++ rest) := rfl
  rw [hstart, scanLine_quotationMark _ hdepths, scanWords_quotationMark, ← hstart,
    scanString_enclosed _ _ h, scanWords_newline _ (by rw [Scanner.brackets_advance, hbrackets])]

end Tokens

end Phrasebook.Caller
