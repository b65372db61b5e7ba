import Mathlib.Data.List.Basic
import Phrasebook.Proofs.Text.Line
import Phrasebook.Section.Read

/-!
# What reading sections depends on

Reading takes lines without the carriage returns and line feeds at their ends, so line endings do
not matter. The name of the source is a label that is put on every entry and on the one fault that
reading can end with; another name changes the labels and nothing else. Entries are numbered by
lines, which are counted from one, and merging sections makes no new ones.
-/

namespace Phrasebook

open Text

/-- An entry under another label. -/
def Entry.labelled (label : String) (e : Entry) : Entry := { e with source := label }

/-- A section under another label. -/
def Section.labelled (label : String) (s : Section) : Section :=
  ⟨s.key, s.entries.map (Entry.labelled label)⟩

/-- An entry outside of sections, reported under another label. -/
def Fault.labelled (label : String) : Fault → Fault
  | .keyValueOutsideSection _ line => .keyValueOutsideSection label line
  | fault => fault

namespace Sections

/-- Sections whose entries all have one label. -/
def labelled (label : String) (sections : Sections) : Sections :=
  sections.map (Section.labelled label)

/-- Every entry of sections has a property. -/
def Every (p : Entry → Prop) (sections : Sections) : Prop := ∀ s ∈ sections, ∀ e ∈ s.entries, p e

section Labels

variable (label : String) (sections : Sections)

@[simp] theorem keys_labelled : (sections.labelled label).keys = sections.keys := by
  simp [keys, labelled, Section.labelled]

private theorem labelled_openKey (key : String) :
    (sections.openKey key).labelled label = (sections.labelled label).openKey key := by
  rw [openKey, openKey, keys_labelled]
  split
  · rfl
  · simp [labelled, Section.labelled]

private theorem labelled_addEntry (key : String) (e : Entry) :
    (sections.addEntry key e).labelled label =
      (sections.labelled label).addEntry key (e.labelled label) := by
  rw [labelled, labelled, addEntry, addEntry, List.map_map, List.map_map]
  refine List.map_congr_left fun s _ => ?_
  by_cases hk : s.key = key <;> simp [Section.labelled, hk]

end Labels

namespace Reading

/-- What has been read, under another label. -/
def labelled (label : String) (reading : Reading) : Reading :=
  { reading with sections := reading.sections.labelled label }

variable {source label : String} {number : Nat} {reading reading' : Reading}

private theorem labelled_openLine (line : List Char) :
    (reading.openLine line).labelled label = (reading.labelled label).openLine line := by
  rw [openLine, openLine]
  cases headerKey? line with
  | none => rfl
  | some key => simp [labelled, labelled_openKey]

/-- A line is read in the same way under another label. -/
private theorem readLine_labelled (source : String) (line : List Char) :
    (reading.labelled label).readLine label number line =
      ((reading.readLine source number line).map (labelled label)).mapError
        (Fault.labelled label) := by
  rw [readLine, readLine, ← labelled_openLine]
  cases entryParts? (chomp line) with
  | none => rfl
  | some parts =>
      cases hcurrent : (reading.openLine (chomp line)).current with
      | none => simp [labelled, hcurrent, Except.map, Except.mapError, Fault.labelled]
      | some key =>
          simp [labelled, hcurrent, labelled_addEntry, Entry.labelled, Except.map, Except.mapError]

/-- Lines are read in the same way under another label. -/
private theorem readLines_labelled (source : String) (reading : Reading)
    (lines : List (List Char)) :
    (reading.labelled label).readLines label number lines =
      ((reading.readLines source number lines).map (labelled label)).mapError
        (Fault.labelled label) := by
  induction lines generalizing number reading with
  | nil => rfl
  | cons line lines ih =>
      rw [readLines, readLines, readLine_labelled source]
      cases reading.readLine source number line with
      | error fault => rfl
      | ok reading' => exact ih reading'

/-- Reading sees lines without the line endings. -/
theorem readLines_congr {lines lines' : List (List Char)}
    (h : lines.map chomp = lines'.map chomp) :
    reading.readLines source number lines = reading.readLines source number lines' := by
  induction lines generalizing number reading lines' with
  | nil =>
      have hnil : lines' = [] := by simpa using h.symm
      rw [hnil]
  | cons line lines ih =>
      obtain ⟨line', lines'', rfl⟩ : ∃ line' lines'', lines' = line' :: lines'' := by
        cases lines' with
        | nil => simp at h
        | cons line' lines'' => exact ⟨line', lines'', rfl⟩
      obtain ⟨hline, hlines⟩ := List.cons.inj h
      have hstep : reading.readLine source number line =
          reading.readLine source number line' := by
        rw [readLine, readLine, hline]
      rw [readLines, readLines, hstep]
      cases reading.readLine source number line' with
      | error fault => rfl
      | ok reading' => exact ih hlines

/-- A line is refused only for an entry outside of sections. -/
private theorem exists_of_readLine_error {line : List Char} {fault : Fault}
    (h : reading.readLine source number line = .error fault) :
    fault = .keyValueOutsideSection source number := by
  rw [readLine] at h
  split at h
  · cases h
  · split at h
    · exact (Except.error.inj h).symm
    · cases h

/-- Reading fails only with an entry outside of sections, on one of the lines. -/
private theorem exists_of_readLines_error {lines : List (List Char)} {fault : Fault}
    (h : reading.readLines source number lines = .error fault) :
    ∃ n, number ≤ n ∧ fault = .keyValueOutsideSection source n := by
  induction lines generalizing number reading with
  | nil => cases h
  | cons line lines ih =>
      rw [readLines] at h
      split at h
      · obtain ⟨n, hn, hfault⟩ := ih h
        exact ⟨n, by omega, hfault⟩
      · rename_i hline
        obtain rfl := Except.error.inj h
        exact ⟨number, Nat.le_refl number, exists_of_readLine_error hline⟩

/-- A line adds at most the entry that it holds, under its number. -/
private theorem every_of_readLine {p : Entry → Prop} {line : List Char}
    (hp : ∀ tag text, p ⟨tag, text, number, source⟩) (h : reading.sections.Every p)
    (hread : reading.readLine source number line = .ok reading') : reading'.sections.Every p := by
  have hopen : (reading.openLine (chomp line)).sections.Every p := by
    rw [openLine]
    split
    · rw [openKey]
      split
      · exact h
      · intro s hs e he
        rcases List.mem_append.mp hs with hs | hs
        · exact h s hs e he
        · rw [List.mem_singleton.mp hs] at he
          simp at he
    · exact h
  rw [readLine] at hread
  split at hread
  · obtain rfl := Except.ok.inj hread
    exact hopen
  · split at hread
    · cases hread
    · obtain rfl := Except.ok.inj hread
      intro s hs e he
      obtain ⟨t, ht, rfl⟩ := List.mem_map.mp hs
      split at he
      · rcases List.mem_append.mp he with he | he
        · exact hopen t ht e he
        · rw [List.mem_singleton.mp he]
          exact hp _ _
      · exact hopen t ht e he

/-- What holds of every entry under a number from the first one on holds of all that is read. -/
private theorem every_of_readLines {p : Entry → Prop} {lines : List (List Char)}
    (hp : ∀ n tag text, number ≤ n → p ⟨tag, text, n, source⟩) (h : reading.sections.Every p)
    (hread : reading.readLines source number lines = .ok reading') :
    reading'.sections.Every p := by
  induction lines generalizing number reading with
  | nil =>
      obtain rfl := Except.ok.inj hread
      exact h
  | cons line lines ih =>
      rw [readLines] at hread
      split at hread
      · rename_i next hline
        refine ih (fun n tag text hn => hp n tag text (by omega)) ?_ hread
        exact every_of_readLine (fun tag text => hp number tag text (Nat.le_refl number)) h hline
      · cases hread

end Reading

section Text

variable {source label : String} {text : List Char}

/-- A text is read in the same way under another label. -/
theorem ofText_labelled (source label : String) (text : List Char) : ofText label text =
    ((ofText source text).map (labelled label)).mapError (Fault.labelled label) := by
  have hlines : Reading.readLines label 1 {} (splitLines text) =
      ((Reading.readLines source 1 {} (splitLines text)).map (Reading.labelled label)).mapError
        (Fault.labelled label) :=
    Reading.readLines_labelled source {} (splitLines text)
  rw [ofText, ofText, ofLines, ofLines, hlines]
  cases Reading.readLines source 1 {} (splitLines text) <;> rfl

/-- Line endings do not matter where every carriage return stands before a line feed. -/
theorem ofText_unifyNewlines (h : PairedReturns text) :
    ofText source (unifyNewlines text) = ofText source text := by
  rw [ofText, ofText, ofLines, ofLines,
    Reading.readLines_congr (map_chomp_splitLines_unifyNewlines h)]

/-- A text is refused only for an entry outside of sections. -/
theorem exists_of_ofText_error {fault : Fault} (h : ofText source text = .error fault) :
    ∃ n, 1 ≤ n ∧ fault = .keyValueOutsideSection source n := by
  rw [ofText, ofLines] at h
  cases hread : Reading.readLines source 1 {} (splitLines text) with
  | ok reading =>
      rw [hread] at h
      cases h
  | error fault' =>
      rw [hread] at h
      obtain rfl := Except.error.inj h
      exact Reading.exists_of_readLines_error hread

/-- Entries of a text stand on lines that are counted from one. -/
theorem one_le_line_of_ofText {sections : Sections} (h : ofText source text = .ok sections) :
    sections.Every (1 ≤ ·.line) := by
  rw [ofText, ofLines] at h
  cases hread : Reading.readLines source 1 {} (splitLines text) with
  | error fault =>
      rw [hread] at h
      cases h
  | ok reading =>
      rw [hread] at h
      obtain rfl := Except.ok.inj h
      refine Reading.every_of_readLines (fun n tag text hn => ?_)
        (by simp [Every]) hread
      exact Int.ofNat_le.mpr hn

end Text

section Merging

/-- A section takes no other section's place but by itself. -/
private theorem mem_of_mem_put {sections : Sections} {s t : Section} (h : t ∈ sections.put s) :
    t = s ∨ t ∈ sections := by
  rw [put] at h
  split at h
  · obtain ⟨u, hu, rfl⟩ := List.mem_map.mp h
    split
    · exact .inl rfl
    · exact .inr hu
  · exact (List.mem_append.mp h).symm.imp_left List.mem_singleton.mp

/-- Merged sections are sections of the catalogs. -/
theorem mem_of_mem_merge {catalogs : List Sections} {s : Section} (h : s ∈ merge catalogs) :
    ∃ sections ∈ catalogs, s ∈ sections := by
  have hfold (list : List Section) (start : Sections) (h : s ∈ list.foldl put start) :
      s ∈ start ∨ s ∈ list := by
    induction list generalizing start with
    | nil => exact .inl h
    | cons t list ih =>
        rcases ih _ h with h | h
        · rcases mem_of_mem_put h with rfl | h
          · exact .inr (List.mem_cons_self ..)
          · exact .inl h
        · exact .inr (List.mem_cons_of_mem t h)
  exact List.mem_flatten.mp ((hfold catalogs.flatten [] h).resolve_left List.not_mem_nil)

/-- What holds of every entry of the catalogs holds of every entry of the merged sections. -/
theorem every_merge {p : Entry → Prop} {catalogs : List Sections}
    (h : ∀ sections ∈ catalogs, sections.Every p) : (merge catalogs).Every p := by
  intro s hs
  obtain ⟨sections, hsections, hs⟩ := mem_of_mem_merge hs
  exact h sections hsections s hs

end Merging

end Sections

end Phrasebook
