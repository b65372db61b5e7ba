import Phrasebook.Proofs.Compilation.Independence
import Phrasebook.Proofs.Section.Declared

/-!
# Merging catalogs

A merged catalog is told by its keys and by what stands under each of them. The keys come in the
order in which they first come up among the catalogs, and under a key stands the section of the last
catalog that has it, as a whole. So catalogs can be merged in groups, and what a later catalog
replaces cannot be seen in what the merged sections are compiled to. The catalogs are values, which
stay what they are when they are merged.
-/

namespace Phrasebook

namespace Sections

/-- The entries of a key in the last catalog that has it. -/
def latest? (catalogs : List Sections) (key : String) : Option (List Entry) :=
  catalogs.reverse.findSome? (·.get? key)

/-- Two catalogs agree on every key that no catalog of a list has. -/
def AgreeBeneath (later : List Sections) (c c' : Sections) : Prop :=
  ∀ key, (∀ d ∈ later, key ∉ d.keys) → c.get? key = c'.get? key

section Lookup

variable {sections sections' : Sections} {s : Section} {key : String}

theorem get?_append : get? (sections ++ sections') key =
    (sections.get? key).or (sections'.get? key) := by
  rw [get?, List.find?_append, Option.map_or]
  rfl

/-- There is nothing under a key exactly if it is none of the keys. -/
theorem get?_eq_none_iff : sections.get? key = none ↔ key ∉ sections.keys := by
  rw [get?, Option.map_eq_none_iff, List.find?_eq_none, keys, List.mem_map]
  simp

/-- In a mapping it does not matter from which end a key is looked for. -/
theorem get?_reverse (h : sections.keys.Nodup) : get? sections.reverse key = sections.get? key := by
  have hreverse : (keys sections.reverse).Nodup := by
    rw [keys, List.map_reverse, List.nodup_reverse]
    exact h
  ext entries
  have hmem := mem_iff_get? h (s := ⟨key, entries⟩)
  rw [← List.mem_reverse, mem_iff_get? hreverse] at hmem
  exact hmem

/-- A mapping is its keys with what stands under them. -/
theorem eq_map_keys (h : sections.keys.Nodup) :
    sections = sections.keys.map fun key => ⟨key, (sections.get? key).getD []⟩ := by
  have hself : ∀ t ∈ sections, (⟨t.key, (sections.get? t.key).getD []⟩ : Section) = t := by
    intro t ht
    rw [(mem_iff_get? h).mp ht, Option.getD_some]
  rw [keys, List.map_map]
  exact (List.map_id sections).symm.trans (List.map_congr_left fun t ht => (hself t ht).symm)

/-- Mappings with the same keys in the same order and the same entries under them are equal. -/
theorem eq_of_keys_eq (h : sections.keys.Nodup) (hkeys : sections.keys = sections'.keys)
    (hget : ∀ key, sections.get? key = sections'.get? key) : sections = sections' := by
  have h' : sections'.keys.Nodup := hkeys ▸ h
  calc sections = sections.keys.map fun key => ⟨key, (sections.get? key).getD []⟩ := eq_map_keys h
    _ = sections'.keys.map fun key => ⟨key, (sections'.get? key).getD []⟩ := by
      simp only [hkeys, hget]
    _ = sections' := (eq_map_keys h').symm

end Lookup

section Steps

variable {sections : Sections} {s : Section} {key : String}

/-- A section that is put among others adds its key behind theirs, unless they have it. -/
theorem keys_put : (sections.put s).keys =
    if s.key ∈ sections.keys then sections.keys else sections.keys ++ [s.key] := by
  rw [put]
  by_cases h : s.key ∈ sections.keys
  · rw [if_pos (List.contains_iff_mem.mpr h), if_pos h, keys, List.map_map]
    apply List.map_congr_left
    intro t _
    by_cases ht : t.key = s.key
    · simp [ht]
    · simp [ht]
  · rw [if_neg (mt List.contains_iff_mem.mp h), if_neg h, keys, List.map_append]
    rfl

/-- A section that is put among others stands under its key, and nothing else changes. -/
theorem get?_put : (sections.put s).get? key =
    if s.key = key then some s.entries else sections.get? key := by
  rw [put]
  by_cases h : s.key ∈ sections.keys
  · rw [if_pos (List.contains_iff_mem.mpr h), get?, List.find?_map]
    -- The replacement keeps the keys, so the section is found where it was.
    have hkey (t : Section) : (if t.key = s.key then s else t).key = t.key := by
      split
      · rename_i ht
        exact ht.symm
      · rfl
    simp only [Function.comp_def, hkey, get?]
    cases hfind : sections.find? (·.key == key) with
    | none =>
        have hne : s.key ≠ key := by
          rintro rfl
          exact get?_eq_none_iff.mp (by rw [get?, hfind]; rfl) h
        simp [hne]
    | some t =>
        have ht : t.key = key := by simpa using List.find?_some hfind
        by_cases hk : s.key = key
        · simp [ht, hk]
        · simp [ht, hk, Ne.symm hk]
  · rw [if_neg (mt List.contains_iff_mem.mp h), get?_append]
    by_cases hk : s.key = key
    · rw [if_pos hk, get?_eq_none_iff.mpr (hk ▸ h), Option.none_or]
      simp [get?, hk]
    · rw [if_neg hk]
      simp [get?, hk]

private theorem ofList_concat (sections : List Section) (s : Section) :
    ofList (sections ++ [s]) = (ofList sections).put s := by
  rw [ofList, List.foldl_append]
  rfl

/-- The keys of sections that replace one another come in the order in which they first come up. -/
theorem keys_ofList (sections : List Section) :
    (ofList sections).keys = (keys sections).eraseDups := by
  induction sections using List.reverseRecOn with
  | nil => rfl
  | append_singleton sections s ih =>
      have hkeys : keys (sections ++ [s]) = keys sections ++ [s.key] := List.map_append
      rw [ofList_concat, keys_put, ih, hkeys, eraseDups_concat]
      simp only [List.mem_eraseDups]

/-- Of the sections of a key the last one stays. -/
theorem get?_ofList (sections : List Section) :
    (ofList sections).get? key = get? sections.reverse key := by
  induction sections using List.reverseRecOn with
  | nil => rfl
  | append_singleton sections s ih =>
      rw [ofList_concat, get?_put, ih, List.reverse_concat, get?, get?, List.find?_cons]
      by_cases hk : s.key = key
      · simp [hk]
      · simp [hk, beq_false_of_ne hk]

end Steps

section Keys

/-- Where nothing is repeated nothing is left out. -/
private theorem eraseDups_of_nodup {keys : List String} (h : keys.Nodup) :
    keys.eraseDups = keys := by
  induction keys using List.reverseRecOn with
  | nil => rfl
  | append_singleton keys key ih =>
      obtain ⟨hkeys, -, hkey⟩ := List.nodup_append.mp h
      have hnew : key ∉ keys := fun hmem => hkey key hmem key (List.mem_singleton_self key) rfl
      rw [eraseDups_concat, if_neg hnew, ih hkeys]

/-- Leaving out repetitions at the end first changes nothing. -/
private theorem eraseDups_append_eraseDups (keys keys' : List String) :
    (keys ++ keys'.eraseDups).eraseDups = (keys ++ keys').eraseDups := by
  induction keys' using List.reverseRecOn with
  | nil => rfl
  | append_singleton keys' key ih =>
      rw [eraseDups_concat, ← List.append_assoc, eraseDups_concat (keys ++ keys'), ← ih]
      by_cases h : key ∈ keys'
      · rw [if_pos h, if_pos (List.mem_append_right keys h)]
      · rw [if_neg h, ← List.append_assoc, eraseDups_concat]
        simp [h]

/-- Leaving out repetitions in front first changes nothing. -/
private theorem eraseDups_eraseDups_append (keys keys' : List String) :
    (keys.eraseDups ++ keys').eraseDups = (keys ++ keys').eraseDups := by
  induction keys' using List.reverseRecOn with
  | nil => simpa using eraseDups_append_eraseDups [] keys
  | append_singleton keys' key ih =>
      rw [← List.append_assoc, ← List.append_assoc, eraseDups_concat, eraseDups_concat, ih]
      simp only [List.mem_append, List.mem_eraseDups]

end Keys

section Merge

variable {xs ys : List Sections} {key : String}

theorem keys_merge (catalogs : List Sections) :
    (merge catalogs).keys = (catalogs.flatMap keys).eraseDups := by
  rw [merge, keys_ofList, keys, List.map_flatten]
  rfl

theorem nodup_keys_merge (catalogs : List Sections) : (merge catalogs).keys.Nodup := by
  rw [keys_merge]
  exact nodup_eraseDups _

theorem mem_keys_merge {catalogs : List Sections} :
    key ∈ (merge catalogs).keys ↔ ∃ c ∈ catalogs, key ∈ c.keys := by
  rw [keys_merge, List.mem_eraseDups, List.mem_flatMap]

/-- The keys of catalogs one behind another are those of both parts. -/
theorem keys_merge_append : (merge (xs ++ ys)).keys =
    ((merge xs).keys ++ (merge ys).keys).eraseDups := by
  rw [keys_merge, keys_merge, keys_merge, List.flatMap_append, eraseDups_eraseDups_append,
    eraseDups_append_eraseDups]

/-- Under a key stands what the later catalogs have, or else what the earlier ones have. -/
theorem get?_merge_append : (merge (xs ++ ys)).get? key =
    ((merge ys).get? key).or ((merge xs).get? key) := by
  rw [merge, merge, merge, get?_ofList, get?_ofList, get?_ofList, List.flatten_append,
    List.reverse_append, get?_append]

/-- A mapping is merged alone into itself. -/
theorem merge_singleton {c : Sections} (h : c.keys.Nodup) : merge [c] = c := by
  apply eq_of_keys_eq (nodup_keys_merge [c])
  · rw [keys_merge, List.flatMap_singleton, eraseDups_of_nodup h]
  · intro key
    rw [merge, get?_ofList, List.flatten_singleton, get?_reverse h]

/-- Catalogs may be merged in two groups first. -/
theorem merge_merge (xs ys : List Sections) : merge [merge xs, merge ys] = merge (xs ++ ys) := by
  have hxs : merge [merge xs] = merge xs := merge_singleton (nodup_keys_merge xs)
  have hys : merge [merge ys] = merge ys := merge_singleton (nodup_keys_merge ys)
  change merge ([merge xs] ++ [merge ys]) = merge (xs ++ ys)
  apply eq_of_keys_eq (nodup_keys_merge _)
  · rw [keys_merge_append, keys_merge_append, hxs, hys]
  · intro key
    rw [get?_merge_append, get?_merge_append, hxs, hys]

/-- Under a key of merged catalogs stands what the last catalog with the key has. -/
theorem get?_merge {catalogs : List Sections} (h : ∀ c ∈ catalogs, c.keys.Nodup) :
    (merge catalogs).get? key = latest? catalogs key := by
  induction catalogs using List.reverseRecOn with
  | nil => rfl
  | append_singleton catalogs c ih =>
      obtain ⟨hcatalogs, hc⟩ := List.forall_mem_append.mp h
      have hlatest : latest? (catalogs ++ [c]) key = (c.get? key).or (latest? catalogs key) := by
        rw [latest?, List.reverse_concat, List.findSome?_cons]
        cases c.get? key <;> rfl
      rw [get?_merge_append, merge_singleton (hc c (List.mem_singleton_self c)), ih hcatalogs,
        hlatest]

/-- What stands under a key does not depend on what a catalog has beneath the later ones. -/
theorem get?_merge_of_agreeBeneath {before after : List Sections} {c c' : Sections}
    (hc : c.keys.Nodup) (hc' : c'.keys.Nodup) (h : AgreeBeneath after c c') :
    (merge (before ++ c :: after)).get? key = (merge (before ++ c' :: after)).get? key := by
  have hsplit (d : Sections) (hd : d.keys.Nodup) : (merge (before ++ d :: after)).get? key =
      ((merge after).get? key).or ((d.get? key).or ((merge before).get? key)) := by
    rw [List.append_cons, get?_merge_append, get?_merge_append, merge_singleton hd]
  rw [hsplit c hc, hsplit c' hc']
  cases hafter : (merge after).get? key with
  | some entries => rfl
  | none =>
      have habsent := mt mem_keys_merge.mpr (get?_eq_none_iff.mp hafter)
      rw [h key fun d hd hkey => habsent ⟨d, hd, hkey⟩]

end Merge

/-- Merged catalogs with the same entries under every key are compiled alike. -/
theorem compile_merge_eq {xs ys : List Sections}
    (h : ∀ key, (merge xs).get? key = (merge ys).get? key) (config : Config) :
    Catalog.compile (merge xs) config = Catalog.compile (merge ys) config := by
  apply Catalog.compile_eq_of_sortSections_eq
  exact Catalog.sortSections_eq_of_get?_eq (nodup_keys_merge xs) (nodup_keys_merge ys) h

/-- What is loaded from sources depends on the merged catalogs only. -/
theorem load_eq_compile_merge {store : Store} {sources : List Source} {catalogs : List Sections}
    (h : Source.readEach store 1 sources = .ok catalogs) (config : Config) :
    Catalog.load store sources config = Catalog.compile (merge catalogs) config := by
  rw [Catalog.load, Source.readAll, h]
  rfl

/-- Merging takes the keys in the order in which they first come up, and with each key the section
of the last catalog that has it, as a whole. Catalogs may be merged in groups first. What a catalog
has under the keys of later ones, well formed or not, shows neither in what the merged sections are
compiled to nor in what is loaded from sources that hold the catalogs. -/
theorem merge_takes_latest (catalogs : List Sections) (h : ∀ c ∈ catalogs, c.keys.Nodup) :
    (merge catalogs).keys = (catalogs.flatMap keys).eraseDups ∧
    (∀ key, (merge catalogs).get? key = latest? catalogs key) ∧
    (∀ xs ys : List Sections, merge [merge xs, merge ys] = merge (xs ++ ys)) ∧
    ∀ (before after : List Sections) (c c' : Sections), catalogs = before ++ c :: after →
      c'.keys.Nodup → AgreeBeneath after c c' → ∀ config : Config,
        Catalog.compile (merge catalogs) config =
          Catalog.compile (merge (before ++ c' :: after)) config ∧
        ∀ (store : Store) (sources sources' : List Source),
          Source.readEach store 1 sources = .ok catalogs →
          Source.readEach store 1 sources' = .ok (before ++ c' :: after) →
          Catalog.load store sources config = Catalog.load store sources' config := by
  refine ⟨keys_merge catalogs, fun key => get?_merge h, merge_merge, ?_⟩
  intro before after c c' hcatalogs hc' hagree config
  subst hcatalogs
  have hc : c.keys.Nodup := h c (by simp)
  have hget (key : String) :
      (merge (before ++ c :: after)).get? key = (merge (before ++ c' :: after)).get? key :=
    get?_merge_of_agreeBeneath hc hc' hagree
  have hcompile := compile_merge_eq hget config
  refine ⟨hcompile, ?_⟩
  intro store sources sources' hread hread'
  rw [load_eq_compile_merge hread, load_eq_compile_merge hread', hcompile]

/-- A catalog with a single section, which has neither a locale nor a template. -/
def spoiled : Sections := [⟨"greeting", [⟨"??", "%.1d", 2, "<string #1>"⟩]⟩]

/-- A catalog with a section for the same key behind another one. -/
def repaired : Sections :=
  [⟨"menu", [⟨"en", "Menu", 2, "<string #2>"⟩]⟩, ⟨"greeting", [⟨"en", "Hello", 4, "<string #2>"⟩]⟩]

/-- The text of the catalog with two sections, behind another text. -/
def repairing (text : String) : List Source :=
  [.text text, .text "[menu]\nen = Menu\n[greeting]\nen = Hello\n"]

/-- The spoiled section gives its key the first place and nothing else. -/
theorem merge_spoiled_takes_latest :
    (∀ c ∈ [spoiled, repaired], c.keys.Nodup) ∧ AgreeBeneath [repaired] spoiled [] ∧
    (merge [spoiled, repaired]).keys = ["greeting", "menu"] ∧
    (merge [spoiled, repaired]).get? "greeting" = repaired.get? "greeting" ∧
    Catalog.compile (merge [spoiled, repaired]) = Catalog.compile (merge [[], repaired]) ∧
    Catalog.load {} (repairing "[greeting]\n?? = %.1d\n") = Catalog.load {} (repairing "") := by
  have hnodup : ∀ c ∈ [spoiled, repaired], c.keys.Nodup := by decide
  have hagree : AgreeBeneath [repaired] spoiled [] := by
    intro key habsent
    have hkey : key ≠ "greeting" := by
      rintro rfl
      exact habsent repaired (List.mem_singleton_self repaired) (by decide)
    simp [spoiled, get?, Ne.symm hkey]
  obtain ⟨hkeys, hget, -, hbeneath⟩ := merge_takes_latest [spoiled, repaired] hnodup
  obtain ⟨hcompile, hload⟩ := hbeneath [] [repaired] spoiled [] rfl List.nodup_nil hagree {}
  refine ⟨hnodup, hagree, hkeys.trans (by decide), (hget _).trans (by decide),
    hcompile, ?_⟩
  exact hload {} _ _ rfl rfl

end Sections

end Phrasebook
