import Mathlib.Data.List.Induction
import Mathlib.Data.List.Nodup
import Mathlib.Data.List.Perm.Basic
import Mathlib.Data.Nat.Find
import Phrasebook.Proofs.Order
import Phrasebook.Proofs.Section.Rendering

/-!
# What lines declare

The sections of a source can be told from its lines without reading them one after another. The keys
are those of the headers, in the order in which they first come up. Every line with an entry belongs
to the last header up to it, and the entries of a key are those of the lines that belong to it, in
the order of the lines, however often its section is left and opened again. A line with an entry
that no header precedes is a stray; the first stray is the fault that reading ends with.
-/

namespace Phrasebook

open Text

namespace Sections

/-- The keys that lines open, in order. -/
def headers (lines : List (List Char)) : List String :=
  lines.filterMap fun line => headerKey? (chomp line)

/-- The key of the last header up to the line at a place, which counts itself. -/
def keyAt? (lines : List (List Char)) (place : Nat) : Option String :=
  (headers (lines.take (place + 1))).getLast?

/-- The entry of a line at a place. -/
def entryOf? (source : String) (place : Nat) (line : List Char) : Option Entry :=
  (entryParts? (chomp line)).map fun (tag, text) => ⟨tag, text, (place + 1 : Nat), source⟩

/-- The entry of the line at a place. -/
def entryAt? (source : String) (lines : List (List Char)) (place : Nat) : Option Entry :=
  lines[place]?.bind (entryOf? source place)

/-- The entries of the lines that belong to a key, in the order of the lines. -/
def entriesUnder (source : String) (lines : List (List Char)) (key : String) : List Entry :=
  (List.range lines.length).filterMap fun place =>
    if keyAt? lines place = some key then entryAt? source lines place else none

/-- The sections that lines declare. -/
def declared (source : String) (lines : List (List Char)) : Sections :=
  (headers lines).eraseDups.map fun key => ⟨key, entriesUnder source lines key⟩

/-- The line at a place has an entry, but no line up to it opens a section, nor does it itself. -/
def Stray (lines : List (List Char)) (place : Nat) : Prop :=
  (∃ line parts, lines[place]? = some line ∧ entryParts? (chomp line) = some parts) ∧
    ∀ line ∈ lines.take (place + 1), headerKey? (chomp line) = none

section Lines

variable {source : String} {lines before after : List (List Char)} {place : Nat} {key : String}

theorem headers_append : headers (before ++ after) = headers before ++ headers after :=
  List.filterMap_append

theorem headers_eq_nil_iff : headers lines = [] ↔
    ∀ line ∈ lines, headerKey? (chomp line) = none := List.filterMap_eq_nil_iff

private theorem take_succ_append_left (h : place < before.length) :
    (before ++ after).take (place + 1) = before.take (place + 1) :=
  List.take_append_of_le_length h

private theorem take_succ_concat (line : List Char) :
    (lines ++ [line]).take (lines.length + 1) = lines ++ [line] :=
  List.take_of_length_le (by simp)

private theorem keyAt?_append_left (h : place < before.length) :
    keyAt? (before ++ after) place = keyAt? before place := by
  rw [keyAt?, keyAt?, take_succ_append_left h]

private theorem entryAt?_append_left (h : place < before.length) :
    entryAt? source (before ++ after) place = entryAt? source before place := by
  rw [entryAt?, entryAt?, List.getElem?_append_left h]

theorem Stray.lt_length (h : Stray lines place) : place < lines.length := by
  obtain ⟨⟨line, parts, hline, -⟩, -⟩ := h
  exact (List.getElem?_eq_some_iff.mp hline).1

/-- Whether a line is a stray does not depend on the lines behind it. -/
theorem stray_append_left (h : place < before.length) :
    Stray (before ++ after) place ↔ Stray before place := by
  rw [Stray, Stray, take_succ_append_left h, List.getElem?_append_left h]

/-- The last line is a stray if it has an entry and no line opens a section. -/
theorem stray_concat_iff {line : List Char} : Stray (lines ++ [line]) lines.length ↔
    (entryParts? (chomp line)).isSome = true ∧ headers (lines ++ [line]) = [] := by
  rw [Stray, take_succ_concat, headers_eq_nil_iff, Option.isSome_iff_exists]
  simp

/-- A further line adds its entry to the key that is open then. -/
theorem entriesUnder_concat (line : List Char) :
    entriesUnder source (lines ++ [line]) key = entriesUnder source lines key ++
      (if (headers (lines ++ [line])).getLast? = some key then
        (entryOf? source lines.length line).toList else []) := by
  have hlast : entryAt? source (lines ++ [line]) lines.length =
      entryOf? source lines.length line := by
    simp [entryAt?]
  rw [entriesUnder, List.length_append, List.length_singleton, List.range_succ,
    List.filterMap_append, entriesUnder]
  congr 1
  · refine List.filterMap_congr fun place hplace => ?_
    rw [List.mem_range] at hplace
    rw [keyAt?_append_left hplace, entryAt?_append_left hplace]
  · rw [List.filterMap_cons, List.filterMap_nil, keyAt?, take_succ_concat, hlast]
    split <;> split <;> simp_all

/-- A line belongs to a key that is opened. -/
theorem mem_headers_of_keyAt? (h : keyAt? lines place = some key) : key ∈ headers lines := by
  have hmem : key ∈ headers (lines.take (place + 1)) := List.mem_of_getLast? h
  rw [← List.take_append_drop (place + 1) lines, headers_append]
  exact List.mem_append_left _ hmem

/-- No line belongs to a key that is not opened. -/
theorem entriesUnder_of_not_mem (h : key ∉ headers lines) : entriesUnder source lines key = [] := by
  rw [entriesUnder, List.filterMap_eq_nil_iff]
  intro place _
  exact if_neg fun hkey => h (mem_headers_of_keyAt? hkey)

end Lines

section Steps

variable (source : String) {lines : List (List Char)}

theorem eraseDups_concat (keys : List String) (key : String) :
    (keys ++ [key]).eraseDups =
      if key ∈ keys then keys.eraseDups else keys.eraseDups ++ [key] := by
  rw [List.eraseDups_append]
  split
  · rename_i h
    simp [List.removeAll, h]
  · rename_i h
    simp [List.removeAll, h, List.eraseDups_cons]

theorem keys_declared : (declared source lines).keys = (headers lines).eraseDups := by
  simp [keys, declared, Function.comp_def]

/-- A header opens its key behind the others, unless the key was opened before. -/
private theorem openLine_declared (line : List Char) :
    Reading.openLine ⟨declared source lines, (headers lines).getLast?⟩ (chomp line) =
      ⟨(headers (lines ++ [line])).eraseDups.map fun key => ⟨key, entriesUnder source lines key⟩,
        (headers (lines ++ [line])).getLast?⟩ := by
  have hheaders : headers (lines ++ [line]) =
      headers lines ++ (headerKey? (chomp line)).toList := by
    rw [headers_append]
    cases hkey : headerKey? (chomp line) <;> simp [headers, hkey]
  rw [Reading.openLine, hheaders]
  cases headerKey? (chomp line) with
  | none => simp [declared]
  | some key =>
      have hcontains : (declared source lines).keys.contains key = true ↔ key ∈ headers lines := by
        rw [keys_declared, List.contains_iff_mem, List.mem_eraseDups]
      simp only [openKey, Option.toList_some, eraseDups_concat, List.getLast?_concat]
      by_cases h : key ∈ headers lines
      · rw [if_pos (hcontains.mpr h), if_pos h, declared]
      · rw [if_neg (mt hcontains.mp h), if_neg h, List.map_append, declared]
        simp [entriesUnder_of_not_mem h]

/-- A line that is no stray takes what the lines before it declare to what they declare with it. -/
private theorem readLine_declared {line : List Char} (h : ¬ Stray (lines ++ [line]) lines.length) :
    Reading.readLine source (lines.length + 1) ⟨declared source lines, (headers lines).getLast?⟩
        line =
      .ok ⟨declared source (lines ++ [line]), (headers (lines ++ [line])).getLast?⟩ := by
  rw [Reading.readLine, openLine_declared]
  cases hparts : entryParts? (chomp line) with
  | none =>
      have hentry : entryOf? source lines.length line = none := by rw [entryOf?, hparts]; rfl
      simp [declared, entriesUnder_concat, hentry]
  | some parts =>
      have hentry : entryOf? source lines.length line =
          some ⟨parts.1, parts.2, (lines.length + 1 : Nat), source⟩ := by
        rw [entryOf?, hparts]
        rfl
      cases hkey : (headers (lines ++ [line])).getLast? with
      | none =>
          rw [stray_concat_iff, hparts] at h
          exact absurd ⟨rfl, List.getLast?_eq_none_iff.mp hkey⟩ h
      | some key =>
          simp only [addEntry, declared, List.map_map, Except.ok.injEq, Reading.mk.injEq, and_true]
          refine List.map_congr_left fun key' _ => ?_
          rw [entriesUnder_concat, hkey, hentry]
          by_cases hk : key' = key
          · simp [hk]
          · simp [hk, Ne.symm hk]

/-- A stray is refused under its number. -/
private theorem readLine_stray {line : List Char} (h : Stray (lines ++ [line]) lines.length) :
    Reading.readLine source (lines.length + 1) ⟨declared source lines, (headers lines).getLast?⟩
        line =
      .error (.keyValueOutsideSection source (lines.length + 1)) := by
  obtain ⟨hentry, hheaders⟩ := stray_concat_iff.mp h
  obtain ⟨parts, hparts⟩ := Option.isSome_iff_exists.mp hentry
  rw [Reading.readLine, openLine_declared, hparts, hheaders]
  rfl

/-- Lines without a stray are read into the sections that they declare. -/
theorem readLines_declared (h : ∀ place, ¬ Stray lines place) :
    Reading.readLines source 1 {} lines =
      .ok ⟨declared source lines, (headers lines).getLast?⟩ := by
  induction lines using List.reverseRecOn with
  | nil => rfl
  | append_singleton lines line ih =>
      have hbefore : ∀ place, ¬ Stray lines place := by
        intro place hstray
        exact h place ((stray_append_left hstray.lt_length).mpr hstray)
      rw [Reading.readLines_append, ih hbefore]
      change Reading.readLines source (1 + lines.length) _ [line] = _
      rw [Reading.readLines, Nat.add_comm, readLine_declared source (h lines.length)]
      rfl

/-- Reading ends with the first stray. -/
theorem readLines_stray {place : Nat} (h : Stray lines place)
    (hfirst : ∀ earlier < place, ¬ Stray lines earlier) :
    Reading.readLines source 1 {} lines = .error (.keyValueOutsideSection source (place + 1)) := by
  have hlt := h.lt_length
  have hlength : (lines.take place).length = place := by
    rw [List.length_take]
    omega
  have hsplit : lines = (lines.take place ++ [lines[place]]) ++ lines.drop (place + 1) := by
    rw [List.append_assoc, List.singleton_append, List.getElem_cons_drop, List.take_append_drop]
  have hstray : Stray (lines.take place ++ [lines[place]]) (lines.take place).length := by
    rw [hsplit, stray_append_left (by simp; omega)] at h
    rwa [hlength]
  have hbefore : ∀ earlier, ¬ Stray (lines.take place) earlier := by
    intro earlier hearlier
    have hin := hearlier.lt_length
    refine hfirst earlier (by omega) ?_
    rw [hsplit, List.append_assoc]
    exact (stray_append_left hin).mpr hearlier
  have hread := readLine_stray source hstray
  rw [hlength] at hread
  conv_lhs => rw [hsplit]
  rw [List.append_assoc, Reading.readLines_append, readLines_declared source hbefore]
  change Reading.readLines source (1 + (lines.take place).length) _ (lines[place] :: _) = _
  rw [Reading.readLines, hlength, Nat.add_comm, hread]

end Steps

section Partition

variable {ι α : Type} {keys : List String}

/-- Among different keys one is met once. -/
private theorem flatMap_ite_eq (hkeys : keys.Nodup) {key : String} (h : key ∈ keys)
    (items : List α) :
    (keys.flatMap fun k => if key = k then items else []) = items := by
  induction keys with
  | nil => cases h
  | cons k keys ih =>
      obtain ⟨hk, hnodup⟩ := List.nodup_cons.mp hkeys
      rw [List.flatMap_cons]
      by_cases hkey : key = k
      · have hothers : (keys.flatMap fun k => if key = k then items else []) = [] := by
          rw [List.flatMap_eq_nil_iff]
          intro k' hk'
          refine if_neg fun he => hk ?_
          rwa [← hkey, he]
        rw [if_pos hkey, hothers, List.append_nil]
      · rw [if_neg hkey, List.nil_append]
        exact ih hnodup ((List.mem_cons.mp h).resolve_left hkey)

/-- Items that are put into groups by their keys are the same items, in another order. -/
private theorem perm_flatMap_filterMap (hkeys : keys.Nodup) {key : ι → Option String}
    {f : ι → Option α} {items : List ι}
    (h : ∀ i ∈ items, (f i).isSome = true → ∃ k ∈ keys, key i = some k) :
    (keys.flatMap fun k => items.filterMap fun i => if key i = some k then f i else none).Perm
      (items.filterMap f) := by
  induction items with
  | nil => simp
  | cons i items ih =>
      obtain ⟨hi, hitems⟩ := List.forall_mem_cons.mp h
      have hcons (g : ι → Option α) :
          (i :: items).filterMap g = (g i).toList ++ items.filterMap g := by
        rw [List.filterMap_cons]
        cases g i <;> rfl
      have hitem : (keys.flatMap fun k => (if key i = some k then f i else none).toList) =
          (f i).toList := by
        cases hf : f i with
        | none => simp
        | some a =>
            obtain ⟨k, hk, hkey⟩ := hi (by rw [hf]; rfl)
            rw [hkey, ← flatMap_ite_eq hkeys hk (some a).toList]
            refine List.flatMap_congr fun k' _ => ?_
            by_cases he : k = k' <;> simp [he]
      simp only [hcons]
      refine (List.flatMap_append_perm keys _ _).symm.trans ?_
      rw [hitem]
      exact (ih hitems).append_left _

variable {source : String} {lines : List (List Char)}

/-- Without a stray, every entry belongs to one of the keys. -/
theorem exists_keyAt? {place : Nat} (h : ¬ Stray lines place)
    (hentry : (entryAt? source lines place).isSome = true) :
    ∃ key ∈ (headers lines).eraseDups, keyAt? lines place = some key := by
  cases hkey : keyAt? lines place with
  | none =>
      obtain ⟨entry, hentry⟩ := Option.isSome_iff_exists.mp hentry
      obtain ⟨line, hline, hparts⟩ := Option.bind_eq_some_iff.mp hentry
      obtain ⟨parts, hparts, -⟩ := Option.map_eq_some_iff.mp hparts
      refine absurd ⟨⟨line, parts, hline, hparts⟩, ?_⟩ h
      exact headers_eq_nil_iff.mp (List.getLast?_eq_none_iff.mp hkey)
  | some key => exact ⟨key, List.mem_eraseDups.mpr (mem_headers_of_keyAt? hkey), rfl⟩

/-- Without a stray, the sections hold every entry once. -/
theorem perm_entries_declared (h : ∀ place, ¬ Stray lines place) :
    ((declared source lines).flatMap Section.entries).Perm
      ((List.range lines.length).filterMap (entryAt? source lines)) := by
  rw [declared, List.flatMap_map]
  exact perm_flatMap_filterMap (nodup_eraseDups _) fun place _ => exists_keyAt? (h place)

end Partition

section Outcome

variable (source : String) {lines : List (List Char)}

/-- Among strays there is a first one. -/
theorem exists_first_stray (h : ∃ place, Stray lines place) :
    ∃ place, Stray lines place ∧ ∀ earlier < place, ¬ Stray lines earlier := by
  classical
  exact ⟨Nat.find h, Nat.find_spec h, fun _ => Nat.find_min h⟩

theorem ofLines_eq_error {place : Nat} (h : Stray lines place)
    (hfirst : ∀ earlier < place, ¬ Stray lines earlier) :
    ofLines source lines = .error (.keyValueOutsideSection source (place + 1)) := by
  rw [ofLines, readLines_stray source h hfirst]
  rfl

theorem ofLines_eq_ok (h : ∀ place, ¬ Stray lines place) :
    ofLines source lines = .ok (declared source lines) := by
  rw [ofLines, readLines_declared source h]
  rfl

theorem not_stray_of_ofLines {sections : Sections} (h : ofLines source lines = .ok sections)
    (place : Nat) : ¬ Stray lines place := by
  intro hstray
  obtain ⟨first, hfirst, hearlier⟩ := exists_first_stray ⟨place, hstray⟩
  rw [ofLines_eq_error source hfirst hearlier] at h
  cases h

end Outcome

/-- Reading follows what lines declare. It fails exactly if a line is a stray, and names the number
of the first one. Otherwise the sections are those that the lines declare: a key for each header, in
the order in which they first come up, each with the entries of the lines that belong to it. They
hold the entry of every line that has one, and each of them once. -/
theorem ofLines_reads_declared (source : String) (lines : List (List Char)) :
    (∀ fault, ofLines source lines = .error fault ↔
      ∃ place, Stray lines place ∧ (∀ earlier < place, ¬ Stray lines earlier) ∧
        fault = .keyValueOutsideSection source (place + 1)) ∧
    (∀ sections, ofLines source lines = .ok sections ↔
      (∀ place, ¬ Stray lines place) ∧ sections = declared source lines) ∧
    ∀ sections, ofLines source lines = .ok sections →
      sections.keys.Nodup ∧ (sections.flatMap Section.entries).Perm
        ((List.range lines.length).filterMap (entryAt? source lines)) := by
  have hok (sections : Sections) (h : ofLines source lines = .ok sections) :
      (∀ place, ¬ Stray lines place) ∧ sections = declared source lines := by
    have hstray := not_stray_of_ofLines source h
    rw [ofLines_eq_ok source hstray] at h
    exact ⟨hstray, (Except.ok.inj h).symm⟩
  refine ⟨fun fault => ⟨fun h => ?_, ?_⟩, fun sections => ⟨hok sections, ?_⟩, fun sections h => ?_⟩
  · by_cases hstray : ∃ place, Stray lines place
    · obtain ⟨place, hplace, hfirst⟩ := exists_first_stray hstray
      rw [ofLines_eq_error source hplace hfirst] at h
      exact ⟨place, hplace, hfirst, (Except.error.inj h).symm⟩
    · rw [ofLines_eq_ok source (not_exists.mp hstray)] at h
      cases h
  · rintro ⟨place, hplace, hfirst, rfl⟩
    exact ofLines_eq_error source hplace hfirst
  · rintro ⟨hstray, rfl⟩
    exact ofLines_eq_ok source hstray
  · obtain ⟨hstray, rfl⟩ := hok sections h
    refine ⟨?_, perm_entries_declared hstray⟩
    rw [keys_declared]
    exact nodup_eraseDups (headers lines)

end Sections

end Phrasebook
