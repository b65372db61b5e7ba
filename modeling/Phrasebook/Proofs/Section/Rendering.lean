import Mathlib.Data.List.Basic
import Phrasebook.Proofs.Outcome
import Phrasebook.Proofs.Text.Line
import Phrasebook.Source

/-!
# Rendered sections

Sections can be written down: the key in brackets, each entry on an indented line of its own, and an
empty line behind them. A line of the one kind is never taken for one of the other, whatever else
the key, the tag and the text hold, and the blanks that are trimmed are those that were written.
Reading therefore gives the sections back, each entry under the number of its line.
-/

namespace Phrasebook

open Text

/-- A section that is to be written. -/
structure Draft where
  /-- The key. -/
  key : String
  /-- The tags and texts of the entries, in order. -/
  entries : List (String × String)
  deriving DecidableEq, Repr

/-- A key that can be read back from brackets. -/
structure IsPlainKey (key : String) : Prop where
  nonempty : key ≠ ""
  bracket : ']' ∉ key.toList
  equals : '=' ∉ key.toList
  feed : '\n' ∉ key.toList

/-- A tag that can be read back from the start of a line. -/
structure IsPlainTag (tag : String) : Prop where
  nonempty : tag ≠ ""
  blank : ∀ c ∈ tag.toList, isBlank c = false
  equals : '=' ∉ tag.toList
  semicolon : ';' ∉ tag.toList
  hash : '#' ∉ tag.toList
  bracket : tag.toList.head? ≠ some '['

/-- A text that can be read back from the end of a line. -/
structure IsPlainText (text : String) : Prop where
  nonempty : text ≠ ""
  feed : '\n' ∉ text.toList
  first : ∀ c, text.toList.head? = some c → isBlank c = false
  last : ∀ c, text.toList.getLast? = some c → isBlank c = false

instance (key : String) : Decidable (IsPlainKey key) :=
  decidable_of_iff
    (key ≠ "" ∧ ']' ∉ key.toList ∧ '=' ∉ key.toList ∧ '\n' ∉ key.toList)
    ⟨fun ⟨hne, hbracket, hequals, hfeed⟩ => ⟨hne, hbracket, hequals, hfeed⟩,
      fun h => ⟨h.nonempty, h.bracket, h.equals, h.feed⟩⟩

instance (tag : String) : Decidable (IsPlainTag tag) :=
  decidable_of_iff
    (tag ≠ "" ∧ tag.toList.all (fun c => !isBlank c) = true ∧ '=' ∉ tag.toList ∧
      ';' ∉ tag.toList ∧ '#' ∉ tag.toList ∧ tag.toList.head? ≠ some '[')
    ⟨fun ⟨hne, hblank, hequals, hsemicolon, hhash, hbracket⟩ =>
        ⟨hne, by simpa using hblank, hequals, hsemicolon, hhash, hbracket⟩,
      fun h => ⟨h.nonempty, by simpa using h.blank, h.equals, h.semicolon, h.hash, h.bracket⟩⟩

instance (text : String) : Decidable (IsPlainText text) :=
  decidable_of_iff
    (text ≠ "" ∧ '\n' ∉ text.toList ∧ text.toList.head?.all (fun c => !isBlank c) = true ∧
      text.toList.getLast?.all (fun c => !isBlank c) = true)
    ⟨fun ⟨hne, hfeed, hfirst, hlast⟩ => ⟨hne, hfeed, by simpa [Option.all_eq_true] using hfirst,
        by simpa [Option.all_eq_true] using hlast⟩,
      fun h => ⟨h.nonempty, h.feed, by simpa [Option.all_eq_true] using h.first,
        by simpa [Option.all_eq_true] using h.last⟩⟩

/-- The characters of a tag may stand in the tag of an entry. -/
theorem IsPlainTag.isTagChar {tag : String} (h : IsPlainTag tag) :
    ∀ c ∈ tag.toList, isTagChar c = true := by
  intro c hc
  have hequals : c ≠ '=' := fun he => h.equals (he ▸ hc)
  have hsemicolon : c ≠ ';' := fun he => h.semicolon (he ▸ hc)
  have hhash : c ≠ '#' := fun he => h.hash (he ▸ hc)
  simp [Phrasebook.isTagChar, h.blank c hc, hequals, hsemicolon, hhash]

namespace Draft

/-- Key, tags and texts can be read back. -/
structure Plain (d : Draft) : Prop where
  key : IsPlainKey d.key
  entries : ∀ e ∈ d.entries, IsPlainTag e.1 ∧ IsPlainText e.2

instance (d : Draft) : Decidable d.Plain :=
  decidable_of_iff (IsPlainKey d.key ∧ ∀ e ∈ d.entries, IsPlainTag e.1 ∧ IsPlainText e.2)
    ⟨fun ⟨hkey, hentries⟩ => ⟨hkey, hentries⟩, fun h => ⟨h.key, h.entries⟩⟩

/-- The line that opens a section. -/
def headerLine (key : String) : String := "[" ++ key ++ "]"

/-- The line of an entry. -/
def entryLine (entry : String × String) : String := "    " ++ entry.1 ++ " = " ++ entry.2

/-- The lines of a section. -/
def lines (d : Draft) : List String := headerLine d.key :: d.entries.map entryLine ++ [""]

/-- Sections as a text. -/
def render (drafts : List Draft) : String := "\n".intercalate (drafts.flatMap lines)

/-- Entries on the lines from a number on. -/
def numbered (source : String) (number : Nat) (entries : List (String × String)) : List Entry :=
  (entries.zipIdx number).map fun (e, n) => ⟨e.1, e.2, n, source⟩

/-- The sections of drafts whose first one is opened by the line with a number. -/
def sections (source : String) (number : Nat) : List Draft → Sections
  | [] => []
  | d :: rest =>
    ⟨d.key, numbered source (number + 1) d.entries⟩ ::
      sections source (number + d.lines.length) rest

end Draft

section Lines

variable {key tag text line : List Char}

/-- A line with a key in brackets opens it. -/
theorem headerKey?_header (hne : key ≠ []) (h : ']' ∉ key) :
    headerKey? ('[' :: (key ++ [']'])) = some (String.ofList key) := by
  have hkey : ∀ c ∈ key, decide (c ≠ ']') = true := by
    intro c hc
    exact decide_eq_true fun he => h (he ▸ hc)
  have hclose : ∀ c, [']'].head? = some c → decide (c ≠ ']') = false := by
    rintro c ⟨⟩
    rfl
  have hstart : trimStart ('[' :: (key ++ [']'])) = '[' :: (key ++ [']']) := by
    rw [trimStart, List.dropWhile_cons_of_neg (by decide)]
  have hrun := takeWhile_append_of_head? hkey hclose
  have hrest := dropWhile_append_of_head? hkey hclose
  simp only [headerKey?, hstart, hrun, hrest]
  simp [hne]

/-- A line without an equals sign adds no entry. -/
theorem entryParts?_of_not_mem (h : '=' ∉ line) : entryParts? line = none := by
  have hsuffix : trimStart ((trimStart line).dropWhile isTagChar) <:+ line :=
    ((List.dropWhile_suffix _).trans (List.dropWhile_suffix _)).trans (List.dropWhile_suffix _)
  rw [entryParts?]
  split
  · rfl
  · split
    · rename_i rest hrest
      rw [hrest] at hsuffix
      exact absurd (hsuffix.subset (List.mem_cons_self ..)) h
    · rfl

/-- A line whose first visible character is no bracket opens no section. -/
theorem headerKey?_of_head? (h : (trimStart line).head? ≠ some '[') : headerKey? line = none := by
  rw [headerKey?]
  split
  · rename_i hline
    rw [hline] at h
    exact absurd rfl h
  · rfl

/-- A line without a blank at its start is not trimmed there. -/
private theorem trimStart_of_head? (h : ∀ c, line.head? = some c → isBlank c = false) :
    trimStart line = line :=
  dropWhile_append_of_head? (List.forall_mem_nil _) h

/-- A text without a blank at either end is not trimmed. -/
private theorem trim_of_visible (hfirst : ∀ c, text.head? = some c → isBlank c = false)
    (hlast : ∀ c, text.getLast? = some c → isBlank c = false) : trim text = text := by
  have hend : trimStart text.reverse = text.reverse := by
    refine trimStart_of_head? fun c hc => hlast c ?_
    rwa [List.head?_reverse] at hc
  rw [trim, trimStart_of_head? hfirst, trimEnd, ← trimStart, hend, List.reverse_reverse]

/-- Blanks in front of a text without a blank at either end are trimmed. -/
private theorem trim_cons_blank {c : Char} (hc : isBlank c = true)
    (hfirst : ∀ c, text.head? = some c → isBlank c = false)
    (hlast : ∀ c, text.getLast? = some c → isBlank c = false) : trim (c :: text) = text := by
  rw [trim, trimStart, List.dropWhile_cons_of_pos hc]
  exact trim_of_visible hfirst hlast

/-- A text behind a blank is the text of an entry. -/
theorem entryText?_cons_blank {c : Char} (hc : isBlank c = true) (hne : text ≠ [])
    (hfeed : '\n' ∉ text) (hfirst : ∀ c, text.head? = some c → isBlank c = false)
    (hlast : ∀ c, text.getLast? = some c → isBlank c = false) :
    entryText? (c :: text) = some (String.ofList text) := by
  rw [entryText?, trim_cons_blank hc hfirst hlast]
  cases text with
  | nil => exact absurd rfl hne
  | cons d text => simp [hfeed]

/-- The visible part of an entry's line starts with the tag. -/
theorem trimStart_entry (htag : tag ≠ []) (hchars : ∀ c ∈ tag, isTagChar c = true) :
    trimStart ("    ".toList ++ (tag ++ text)) = tag ++ text := by
  refine dropWhile_append_of_head? (fun c hc => ?_) fun c hc => ?_
  · obtain rfl : c = ' ' := by simpa using hc
    rfl
  · rw [List.head?_append_of_ne_nil _ htag] at hc
    have hchar := hchars c (List.mem_of_mem_head? hc)
    simp only [isTagChar, Bool.and_eq_true, Bool.not_eq_true'] at hchar
    exact hchar.1.1.1

/-- A tag and a text with an equals sign between them are the parts of an entry. -/
theorem entryParts?_entry (htag : tag ≠ []) (hchars : ∀ c ∈ tag, isTagChar c = true)
    (hne : text ≠ []) (hfeed : '\n' ∉ text)
    (hfirst : ∀ c, text.head? = some c → isBlank c = false)
    (hlast : ∀ c, text.getLast? = some c → isBlank c = false) :
    entryParts? ("    ".toList ++ (tag ++ (" = ".toList ++ text))) =
      some (String.ofList tag, String.ofList text) := by
  have hstop : ∀ c, (" = ".toList ++ text).head? = some c → isTagChar c = false := by
    intro c hc
    obtain rfl : ' ' = c := by simpa using hc
    rfl
  have hrun := takeWhile_append_of_head? hchars hstop
  have hrest := dropWhile_append_of_head? hchars hstop
  have hequals : trimStart (" = ".toList ++ text) = '=' :: ' ' :: text := rfl
  have htext := entryText?_cons_blank (c := ' ') rfl hne hfeed hfirst hlast
  simp only [entryParts?, trimStart_entry htag hchars, hrun, hrest, hequals, htext]
  simp [htag]

end Lines

namespace Sections

variable {sections before : Sections} {key : String}

/-- A new key is opened behind the others. -/
theorem openKey_of_not_mem (h : key ∉ sections.keys) :
    sections.openKey key = sections ++ [⟨key, []⟩] := by
  rw [openKey, if_neg]
  simpa using h

/-- An entry is added to the last section alone if no other one has its key. -/
theorem addEntry_append_singleton (h : key ∉ before.keys) (found : List Entry) (e : Entry) :
    addEntry key e (before ++ [⟨key, found⟩]) = before ++ [⟨key, found ++ [e]⟩] := by
  have hbefore : before.map (fun s => if s.key = key then ⟨key, s.entries ++ [e]⟩ else s) =
      before := by
    refine (List.map_congr_left fun s hs => if_neg fun hs' => h ?_).trans (List.map_id before)
    exact hs' ▸ List.mem_map_of_mem hs
  rw [addEntry, List.map_append, hbefore]
  simp

end Sections

namespace Sections.Reading

open Draft

variable {source : String} {number : Nat} {reading : Reading}

/-- Lines are read one part after the other. -/
theorem readLines_append (before after : List (List Char)) :
    reading.readLines source number (before ++ after) = (do
      let reading ← reading.readLines source number before
      reading.readLines source (number + before.length) after) := by
  induction before generalizing number reading with
  | nil => rfl
  | cons line before ih =>
      rw [List.cons_append, readLines, readLines]
      cases reading.readLine source number line with
      | error fault => rfl
      | ok next =>
          have hnumber : number + (line :: before).length = number + 1 + before.length := by
            rw [List.length_cons]
            omega
          rw [hnumber]
          exact ih

/-- A header line opens its section and adds no entry. -/
private theorem readLine_header {key : String} (h : IsPlainKey key) :
    reading.readLine source number (headerLine key).toList =
      .ok ⟨reading.sections.openKey key, some key⟩ := by
  have hline : (headerLine key).toList = '[' :: (key.toList ++ [']']) := by
    simp [headerLine]
  have hchomp : chomp ('[' :: (key.toList ++ [']'])) = '[' :: (key.toList ++ [']']) := by
    refine chomp_of_getLast? fun c hc => ?_
    rw [← List.cons_append, List.getLast?_concat] at hc
    obtain rfl := Option.some.inj hc
    decide
  have hkey := headerKey?_header (by simpa using h.nonempty) h.bracket
  have hentry : entryParts? ('[' :: (key.toList ++ [']'])) = none := by
    refine entryParts?_of_not_mem ?_
    simp [h.equals]
  rw [hline, readLine, hchomp, hentry, openLine, hkey, String.ofList_toList]

/-- The line of an entry adds it to the open section and opens none. -/
private theorem readLine_entry {entry : String × String} (htag : IsPlainTag entry.1)
    (htext : IsPlainText entry.2) {key : String} (hcurrent : reading.current = some key) :
    reading.readLine source number (entryLine entry).toList =
      .ok ⟨reading.sections.addEntry key ⟨entry.1, entry.2, number, source⟩, some key⟩ := by
  have htagne : entry.1.toList ≠ [] := by simpa using htag.nonempty
  have htextne : entry.2.toList ≠ [] := by simpa using htext.nonempty
  have hline : (entryLine entry).toList =
      "    ".toList ++ (entry.1.toList ++ (" = ".toList ++ entry.2.toList)) := by
    simp [entryLine]
  have hchomp : chomp (entryLine entry).toList = (entryLine entry).toList := by
    refine chomp_of_getLast? fun c hc => ?_
    have hlast : entry.2.toList.getLast? = some c := by
      rw [hline, ← List.append_assoc, ← List.append_assoc, List.append_assoc "    ".toList,
        List.getLast?_append_of_ne_nil _ htextne] at hc
      exact hc
    have hblank := htext.last c hlast
    constructor <;> rintro rfl <;> exact absurd hblank (by decide)
  have hheader : headerKey? (entryLine entry).toList = none := by
    refine headerKey?_of_head? ?_
    rw [hline, trimStart_entry htagne htag.isTagChar, List.head?_append_of_ne_nil _ htagne]
    exact htag.bracket
  have hparts := entryParts?_entry htagne htag.isTagChar htextne htext.feed htext.first htext.last
  rw [readLine, hchomp, openLine, hheader, hline, hparts]
  simp [hcurrent]

/-- Lines of entries add them one after another to the section that was opened last. -/
private theorem readLines_entries (source : String) (number : Nat) {before : Sections}
    {key : String} (hkey : key ∉ before.keys) {entries : List (String × String)}
    (h : ∀ e ∈ entries, IsPlainTag e.1 ∧ IsPlainText e.2) (found : List Entry) :
    readLines source number ⟨before ++ [⟨key, found⟩], some key⟩
        (entries.map fun e => (entryLine e).toList) =
      .ok ⟨before ++ [⟨key, found ++ numbered source number entries⟩], some key⟩ := by
  induction entries generalizing number found with
  | nil => simp [readLines, numbered]
  | cons entry entries ih =>
      obtain ⟨⟨htag, htext⟩, hrest⟩ := List.forall_mem_cons.mp h
      rw [List.map_cons, readLines, readLine_entry htag htext rfl]
      simp only [addEntry_append_singleton hkey]
      rw [ih (number + 1) hrest]
      simp [numbered, List.zipIdx_cons]

/-- The lines of a section whose key is new add it behind the others. -/
private theorem readLines_draft {d : Draft} (h : d.Plain) (hkey : d.key ∉ reading.sections.keys) :
    reading.readLines source number (d.lines.map String.toList) =
      .ok ⟨reading.sections ++ [⟨d.key, numbered source (number + 1) d.entries⟩], some d.key⟩ := by
  have hentries := readLines_entries source (number + 1) hkey h.entries []
  rw [lines, List.map_append, List.map_cons, List.map_map, List.cons_append, readLines,
    readLine_header h.key]
  simp only [openKey_of_not_mem hkey]
  rw [readLines_append]
  change (readLines _ _ _ (d.entries.map fun e => (entryLine e).toList) >>= _) = _
  rw [hentries]
  rfl

/-- The lines of sections with new keys add them behind the others, in order. -/
private theorem readLines_drafts (source : String) (number : Nat) (reading : Reading)
    {drafts : List Draft} (h : ∀ d ∈ drafts, d.Plain)
    (hkeys : (reading.sections.keys ++ drafts.map Draft.key).Nodup) :
    ∃ current, reading.readLines source number ((drafts.flatMap lines).map String.toList) =
      .ok ⟨reading.sections ++ Draft.sections source number drafts, current⟩ := by
  induction drafts generalizing number reading with
  | nil => exact ⟨reading.current, by simp [readLines, Draft.sections]⟩
  | cons d drafts ih =>
      obtain ⟨hd, hdrafts⟩ := List.forall_mem_cons.mp h
      have hkey : d.key ∉ reading.sections.keys := by
        intro hmem
        rw [List.map_cons, List.nodup_append] at hkeys
        exact hkeys.2.2 _ hmem _ (List.mem_cons_self ..) rfl
      rw [List.flatMap_cons, List.map_append, readLines_append, readLines_draft hd hkey,
        List.length_map]
      obtain ⟨current, hrest⟩ := ih (number + d.lines.length)
        ⟨reading.sections ++ [⟨d.key, numbered source (number + 1) d.entries⟩], some d.key⟩
        hdrafts (by simpa [keys] using hkeys)
      refine ⟨current, hrest.trans ?_⟩
      simp [Draft.sections]

end Sections.Reading

namespace Draft

/-- Lines, the last one of which is empty, are joined as if each were ended by a line feed. -/
private theorem toList_intercalate_append_empty (lines : List String) :
    ("\n".intercalate (lines ++ [""])).toList =
      (lines.map String.toList).flatMap (· ++ ['\n']) := by
  induction lines with
  | nil => rfl
  | cons line rest ih =>
      obtain ⟨next, others, hnext⟩ := List.exists_cons_of_ne_nil (l := rest ++ [""]) (by simp)
      rw [hnext] at ih
      rw [List.cons_append, hnext, String.intercalate_cons_cons, List.map_cons, List.flatMap_cons,
        ← ih]
      simp

/-- No line of a plain section has a line feed. -/
theorem Plain.feed_not_mem {d : Draft} (h : d.Plain) :
    ∀ line ∈ d.lines, '\n' ∉ line.toList := by
  intro line hline
  rw [lines, List.mem_append, List.mem_cons, List.mem_map, List.mem_singleton] at hline
  rcases hline with (rfl | ⟨e, he, rfl⟩) | rfl
  · simp [headerLine, h.key.feed]
  · obtain ⟨htag, htext⟩ := h.entries e he
    have hfeed : '\n' ∉ e.1.toList := fun hmem => absurd (htag.blank _ hmem) (by decide)
    simp [entryLine, hfeed, htext.feed]
  · simp

/-- The last line of rendered sections is empty. -/
private theorem exists_lines_eq_append {drafts : List Draft} (h : drafts ≠ []) :
    ∃ before, drafts.flatMap lines = before ++ [""] := by
  obtain ⟨others, d, rfl⟩ := (List.eq_nil_or_concat drafts).resolve_left h
  refine ⟨others.flatMap lines ++ headerLine d.key :: d.entries.map entryLine, ?_⟩
  simp [lines]

/-- Rendered sections are read back from their text. -/
theorem ofText_render {drafts : List Draft} (h : ∀ d ∈ drafts, d.Plain)
    (hkeys : (drafts.map Draft.key).Nodup) (source : String) :
    Sections.ofText source (render drafts).toList = .ok (sections source 1 drafts) := by
  by_cases hne : drafts = []
  · rw [hne]
    rfl
  · obtain ⟨before, hlines⟩ := exists_lines_eq_append hne
    obtain ⟨current, hread⟩ := Sections.Reading.readLines_drafts source 1 {} h hkeys
    have hfeed : ∀ line ∈ before.map String.toList, '\n' ∉ line := by
      intro chars hchars
      obtain ⟨line, hline, rfl⟩ := List.mem_map.mp hchars
      have hmem : line ∈ drafts.flatMap lines := hlines ▸ List.mem_append_left _ hline
      obtain ⟨d, hd, hmem⟩ := List.mem_flatMap.mp hmem
      exact (h d hd).feed_not_mem line hmem
    -- The text ends behind the last line feed, so that the empty line there is not read.
    rw [hlines, List.map_append, Sections.Reading.readLines_append] at hread
    obtain ⟨reading, hreading, hlast⟩ := bind_eq_ok_iff.mp hread
    obtain rfl := Except.ok.inj hlast
    rw [Sections.ofText, Sections.ofLines, render, hlines, toList_intercalate_append_empty,
      splitLines_flatMap hfeed, hreading]
    rfl

/-- A section without the places of its entries. -/
def ofSection (s : Section) : Draft := ⟨s.key, s.entries.map fun e => (e.tag, e.text)⟩

/-- Sections have the keys, tags and texts of their drafts. -/
theorem map_ofSection_sections (source : String) (number : Nat) (drafts : List Draft) :
    (sections source number drafts).map ofSection = drafts := by
  induction drafts generalizing number with
  | nil => rfl
  | cons d drafts ih =>
      have hentries : (numbered source (number + 1) d.entries).map (fun e => (e.tag, e.text)) =
          d.entries := by
        simp [numbered, Function.comp_def]
      rw [sections, List.map_cons, ih, ofSection, hentries]

/-- Every entry of the sections of drafts stands on the line with its number. -/
theorem exists_line_of_mem_sections {source : String} {number : Nat} {drafts : List Draft}
    {s : Section} (hs : s ∈ sections source number drafts) {e : Entry} (he : e ∈ s.entries) :
    ∃ k : Nat, e.line = number + k ∧
      (drafts.flatMap lines)[k]? = some (entryLine (e.tag, e.text)) := by
  induction drafts generalizing number with
  | nil => cases hs
  | cons d drafts ih =>
      rw [List.flatMap_cons]
      rcases List.mem_cons.mp hs with rfl | hs
      · obtain ⟨⟨entry, n⟩, hmem, rfl⟩ := List.mem_map.mp he
        obtain ⟨hn, hentry⟩ := List.mk_mem_zipIdx_iff_le_and_getElem?_sub.mp hmem
        refine ⟨n - number, ?_, ?_⟩
        · change (n : Int) = _
          omega
        · have hindex : n - number = n - (number + 1) + 1 := by omega
          have hlt : n - (number + 1) < (d.entries.map entryLine).length := by
            rw [List.length_map]
            exact (List.getElem?_eq_some_iff.mp hentry).1
          rw [hindex, lines, List.cons_append, List.cons_append, List.getElem?_cons_succ,
            List.append_assoc, List.getElem?_append_left hlt, List.getElem?_map, hentry]
          rfl
      · obtain ⟨k, hline, hk⟩ := ih hs
        refine ⟨d.lines.length + k, ?_, ?_⟩
        · rw [hline]
          omega
        · rw [List.getElem?_append_right (by omega), Nat.add_sub_cancel_left, hk]

/-- Reading undoes rendering. Whatever source yields the text of plain sections with distinct keys,
it is read into the same keys, tags and texts in the same order, and every entry has the number of
its line, counted from one. -/
theorem read_of_render {drafts : List Draft} (hplain : ∀ d ∈ drafts, d.Plain)
    (hkeys : (drafts.map Draft.key).Nodup) {store : Store} {x : Source}
    (hx : x.content store = .ok (render drafts).toList) (name : Option String) :
    x.read store name = .ok (sections (x.label name) 1 drafts) ∧
      (sections (x.label name) 1 drafts).map ofSection = drafts ∧
      ∀ s ∈ sections (x.label name) 1 drafts, ∀ e ∈ s.entries, ∃ k : Nat, e.line = k + 1 ∧
        (drafts.flatMap lines)[k]? = some (entryLine (e.tag, e.text)) := by
  refine ⟨?_, map_ofSection_sections _ _ _, fun s hs e he => ?_⟩
  · rw [Source.read, hx]
    exact ofText_render hplain hkeys (x.label name)
  · obtain ⟨k, hline, hk⟩ := exists_line_of_mem_sections hs he
    exact ⟨k, by omega, hk⟩

/-- A section whose key, tag and texts hold the marks of lines of the other kind, and an empty
section. -/
def awkward : List Draft :=
  [⟨" [menu;\r", [("en-]GB[", "a = [b] # c"), ("de", "\"x\r=\u2028;")]⟩, ⟨"#", []⟩]

/-- The awkward sections are read back from their text. -/
theorem read_of_render_awkward :
    (∀ d ∈ awkward, d.Plain) ∧ (awkward.map Draft.key).Nodup ∧
    (Source.text (render awkward)).read {} = .ok
      [⟨" [menu;\r", [⟨"en-]GB[", "a = [b] # c", 2, "<string>"⟩,
        ⟨"de", "\"x\r=\u2028;", 3, "<string>"⟩]⟩, ⟨"#", []⟩] := by
  have hplain : ∀ d ∈ awkward, d.Plain := by decide +kernel
  have hkeys : (awkward.map Draft.key).Nodup := by decide
  exact ⟨hplain, hkeys, (read_of_render hplain hkeys rfl none).1⟩

end Draft

end Phrasebook
