import Mathlib.Data.List.Forall2
import Phrasebook.Caller.Reference
import Phrasebook.Proofs.Caller.Parts
import Phrasebook.Proofs.Sorting

/-!
# Completeness of references

Where a caller takes a name from a generated module is told part by part: an access to an attribute
of a dotted name that an import binds, or a name in an import from a generated module. What imports
bind is told by the whole tree, so it does not matter how deep an access stands and on which side of
the import. The references of a tree are those of its parts, one for each place where a name is
taken, in the order of lines and columns.
-/

namespace Phrasebook

namespace Reference

theorem precedes_iff {a b : Reference} : precedes a b = true ↔
    a.line < b.line ∨ a.line = b.line ∧ a.column ≤ b.column := by
  simp only [precedes, Bool.or_eq_true, decide_eq_true_eq, Bool.and_eq_true, beq_iff_eq]

theorem precedes_total (a b : Reference) : precedes a b || precedes b a := by
  rw [Bool.or_eq_true, precedes_iff, precedes_iff]
  omega

theorem precedes_trans (a b c : Reference) (hab : precedes a b) (hbc : precedes b c) :
    precedes a c := by
  rw [precedes_iff] at hab hbc ⊢
  omega

end Reference

namespace Caller

/-- The last part of a dotted name is the name of a generated module. -/
def EndsInModule (modules : List String) (dotted : String) : Prop :=
  ∃ m ∈ modules, '.' ∉ m.toList ∧ (dotted = m ∨ ∃ front, dotted = front ++ "." ++ m)

/-- A place where a tree can take a name: the steps to a part, and a position in it. -/
structure Site where
  steps : List Step
  position : Nat
  deriving DecidableEq, Repr

namespace Tree

/-- A tree that is nothing but a dotted name. -/
inductive Dotted : Tree → String → Prop
  | name (text : String) : Dotted (.name text) text
  | member {owner : Tree} {dotted : String} (attr : String) (line column : Nat)
      (h : Dotted owner dotted) : Dotted (.attribute owner attr line column) (dotted ++ "." ++ attr)

/-- The names that an import binds to generated modules. -/
inductive Binds (modules : List String) : Tree → String → Prop
  | imports {aliases : List Alias} {a : Alias} (ha : a ∈ aliases)
      (hname : EndsInModule modules a.name) : Binds modules (.imports aliases) a.bound
  | importsFrom {origin : String} {aliases : List Alias} {line column : Nat} {a : Alias}
      (horigin : origin = "" ∨ ¬ EndsInModule modules origin) (ha : a ∈ aliases)
      (hname : a.name ∈ modules) : Binds modules (.importsFrom origin aliases line column) a.bound

/-- A name that some import in a tree binds to a generated module, wherever it stands. -/
def Bound (modules : List String) (tree : Tree) (name : String) : Prop :=
  ∃ steps node, tree.part? steps = some node ∧ Binds modules node name

/-- The references that a tree makes at its places. An import whose origin is given only by points
makes none. -/
inductive Takes (modules : List String) (source : String) (tree : Tree) : Site → Reference → Prop
  | access {steps : List Step} {owner : Tree} {attr dotted : String} {line column : Nat}
      (hpart : tree.part? steps = some (.attribute owner attr line column))
      (hdotted : Dotted owner dotted) (hbound : Bound modules tree dotted) :
      Takes modules source tree ⟨steps, 0⟩ ⟨attr, line, column, source⟩
  | imported {steps : List Step} {origin : String} {aliases : List Alias} {line column : Nat}
      {position : Nat} {a : Alias}
      (hpart : tree.part? steps = some (.importsFrom origin aliases line column))
      (hne : origin ≠ "") (horigin : EndsInModule modules origin)
      (ha : aliases[position]? = some a) (hstar : a.name ≠ "*") :
      Takes modules source tree ⟨steps, position⟩ ⟨a.name, line, column, source⟩

section Sites

variable {give : Tree → List (Nat × Reference)}

/-- What the parts of a tree give, with the places. -/
def sites (give : Tree → List (Nat × Reference)) (tree : Tree) : List (Site × Reference) :=
  tree.parts.flatMap fun part => (give part.2).map fun given => (⟨part.1, given.1⟩, given.2)

theorem mem_sites {tree : Tree} {site : Site} {r : Reference} :
    (site, r) ∈ tree.sites give ↔
      ∃ node, tree.part? site.steps = some node ∧ (site.position, r) ∈ give node := by
  simp only [sites, List.mem_flatMap, List.mem_map]
  constructor
  · rintro ⟨⟨steps, node⟩, hpart, ⟨position, r'⟩, hgiven, heq⟩
    obtain ⟨rfl, rfl⟩ := Prod.mk.inj heq
    exact ⟨node, mem_parts.mp hpart, hgiven⟩
  · rintro ⟨node, hpart, hgiven⟩
    exact ⟨(site.steps, node), mem_parts.mpr hpart, (site.position, r), hgiven, rfl⟩

/-- Parts that give something at different positions give it at different places of the tree. -/
theorem nodup_sites (h : ∀ node, ((give node).map Prod.fst).Nodup) (tree : Tree) :
    ((tree.sites give).map Prod.fst).Nodup := by
  have hsites : (tree.sites give).map Prod.fst =
      tree.parts.flatMap fun part => ((give part.2).map Prod.fst).map (Site.mk part.1) := by
    simp [sites, List.map_flatMap, Function.comp_def]
  rw [hsites, List.nodup_flatMap]
  constructor
  · intro part _
    exact (h part.2).map fun _ _ heq => (Site.mk.inj heq).2
  · refine (List.pairwise_map.mp (nodup_steps_parts tree)).imp ?_
    intro part part' hne site hsite hsite'
    obtain ⟨_, -, rfl⟩ := List.mem_map.mp hsite
    obtain ⟨_, -, heq⟩ := List.mem_map.mp hsite'
    exact hne (Site.mk.inj heq).1.symm

theorem map_snd_sites (give : Tree → List (Nat × Reference)) (tree : Tree) :
    (tree.sites give).map Prod.snd = tree.parts.flatMap fun part => (give part.2).map Prod.snd := by
  simp [sites, List.map_flatMap, Function.comp_def]

/-- An access gives what it gives itself and what its owner gives. -/
private theorem map_snd_sites_attribute (owner : Tree) (attr : String) (line column : Nat) :
    ((Tree.attribute owner attr line column).sites give).map Prod.snd =
      (give (.attribute owner attr line column)).map Prod.snd ++
        (owner.sites give).map Prod.snd := by
  rw [map_snd_sites, map_snd_sites, parts, List.flatMap_cons, List.flatMap_map]
  rfl

/-- Two parts together give what they give on their own. -/
private theorem map_snd_sites_join (first second : Tree) :
    ((Tree.join first second).sites give).map Prod.snd =
      (give (.join first second)).map Prod.snd ++
        ((first.sites give).map Prod.snd ++ (second.sites give).map Prod.snd) := by
  rw [map_snd_sites, map_snd_sites, map_snd_sites, parts, List.flatMap_cons, List.flatMap_append,
    List.flatMap_map, List.flatMap_map]
  rfl

end Sites

section Bindings

variable {modules : List String}

/-- The last part of a dotted name is what stands behind its last point. -/
theorem isGenerated_iff {dotted : String} :
    isGenerated modules dotted = true ↔ EndsInModule modules dotted := by
  rw [isGenerated, List.contains_iff_mem, Text.afterLast]
  constructor
  · intro h
    refine ⟨_, h, ?_⟩
    rw [String.toList_ofList]
    cases hsplit : Text.splitLast? '.' dotted.toList with
    | none =>
        exact ⟨Text.splitLast?_eq_none_iff.mp hsplit, .inl (String.ofList_toList).symm⟩
    | some parts =>
        obtain ⟨front, last⟩ := parts
        refine ⟨Text.not_mem_of_splitLast? hsplit, .inr ⟨String.ofList front, ?_⟩⟩
        rw [← String.toList_inj, ← Text.append_of_splitLast? hsplit]
        simp
  · rintro ⟨m, hm, hpoint, rfl | ⟨front, rfl⟩⟩
    · rwa [Text.splitLast?_eq_none_iff.mpr hpoint, String.ofList_toList]
    · have hsplit := Text.splitLast?_append front.toList hpoint
      have hmark : ".".toList = ['.'] := by decide
      rw [String.toList_append, String.toList_append, hmark, List.append_assoc,
        List.singleton_append, hsplit, String.ofList_toList]
      exact hm

/-- A tree is a dotted name exactly if reading it as one succeeds. -/
theorem dottedName?_eq_some_iff {tree : Tree} {dotted : String} :
    tree.dottedName? = some dotted ↔ Dotted tree dotted := by
  induction tree generalizing dotted with
  | name text =>
      constructor
      · rintro ⟨⟩
        exact .name text
      · rintro ⟨⟩
        rfl
  | «attribute» owner attr line column ih =>
      rw [dottedName?, Option.map_eq_some_iff]
      constructor
      · rintro ⟨front, hfront, rfl⟩
        exact .member attr line column (ih.mp hfront)
      · rintro ⟨⟩
        rename_i front hfront
        exact ⟨front, ih.mpr hfront, rfl⟩
  | _ => exact ⟨nofun, nofun⟩

private theorem mem_bindings_imports {aliases : List Alias} {name : String} :
    name ∈ (Tree.imports aliases).bindings modules ↔ Binds modules (.imports aliases) name := by
  rw [bindings, List.mem_map]
  constructor
  · rintro ⟨a, ha, rfl⟩
    obtain ⟨ha, hname⟩ := List.mem_filter.mp ha
    exact .imports ha (isGenerated_iff.mp hname)
  · rintro ⟨ha, hname⟩
    exact ⟨_, List.mem_filter.mpr ⟨ha, isGenerated_iff.mpr hname⟩, rfl⟩

private theorem mem_bindings_importsFrom {origin : String} {aliases : List Alias}
    {line column : Nat} {name : String} :
    name ∈ (Tree.importsFrom origin aliases line column).bindings modules ↔
      Binds modules (.importsFrom origin aliases line column) name := by
  rw [bindings]
  constructor
  · intro h
    split at h
    · cases h
    · rename_i horigin
      rw [isGenerated_iff, not_and_or, not_not] at horigin
      obtain ⟨a, ha, rfl⟩ := List.mem_map.mp h
      obtain ⟨ha, hname⟩ := List.mem_filter.mp ha
      exact .importsFrom horigin ha (List.contains_iff_mem.mp hname)
  · intro h
    cases h with
    | importsFrom horigin ha hname =>
        rw [if_neg (by rwa [isGenerated_iff, not_and_or, not_not]), List.mem_map]
        exact ⟨_, List.mem_filter.mpr ⟨ha, List.contains_iff_mem.mpr hname⟩, rfl⟩

/-- The bindings of a tree are the names that imports bind at any of its parts. -/
theorem mem_bindings {tree : Tree} {name : String} :
    name ∈ tree.bindings modules ↔ Bound modules tree name := by
  unfold Bound
  induction tree with
  | «attribute» owner attr line column ih =>
      have hnone : ¬ Binds modules (.attribute owner attr line column) name := by rintro ⟨⟩
      rw [bindings, exists_part_attribute, ih, or_iff_right hnone]
  | join first second ihFirst ihSecond =>
      have hnone : ¬ Binds modules (.join first second) name := by rintro ⟨⟩
      rw [bindings, List.mem_append, exists_part_join, ihFirst, ihSecond, or_iff_right hnone]
  | imports aliases => rw [mem_bindings_imports, exists_part_leaf (by simp [part?])]
  | importsFrom origin aliases line column =>
      rw [mem_bindings_importsFrom, exists_part_leaf (by simp [part?])]
  | _ =>
      rw [bindings, exists_part_leaf (by simp [part?])]
      constructor <;> rintro ⟨⟩

end Bindings

section Contributions

variable {modules bound : List String} {source : String}

/-- The references that an import from a generated module makes, with the positions of the names. -/
def imported (modules : List String) (source : String) : Tree → List (Nat × Reference)
  | .importsFrom origin aliases line column =>
    if origin ≠ "" ∧ isGenerated modules origin then
      (aliases.zipIdx.filter fun a => a.1.name ≠ "*").map fun a =>
        (a.2, ⟨a.1.name, line, column, source⟩)
    else []
  | _ => []

/-- The reference that an access makes, if its owner is bound. -/
def accessed (bound : List String) (source : String) : Tree → List (Nat × Reference)
  | .attribute owner attr line column =>
    if owner.dottedName?.any bound.contains then [(0, ⟨attr, line, column, source⟩)] else []
  | _ => []

/-- The names that are imported from generated modules are those at the parts of the tree. -/
theorem importedNames_eq (modules : List String) (source : String) (tree : Tree) :
    tree.importedNames modules source =
      (tree.sites (imported modules source)).map Prod.snd := by
  induction tree with
  | «attribute» owner attr line column ih =>
      rw [importedNames, map_snd_sites_attribute, ih]
      rfl
  | join first second ihFirst ihSecond =>
      rw [importedNames, map_snd_sites_join, ihFirst, ihSecond]
      rfl
  | importsFrom origin aliases line column =>
      have hfilter : aliases.filter (fun a => a.name ≠ "*") =
          (aliases.zipIdx.filter fun a => a.1.name ≠ "*").map Prod.fst := by
        conv_lhs => rw [← List.zipIdx_map_fst 0 aliases, List.filter_map]
        rfl
      have hparts : (Tree.importsFrom origin aliases line column).parts =
          [([], .importsFrom origin aliases line column)] := rfl
      rw [importedNames, map_snd_sites, hparts, List.flatMap_singleton, imported]
      split
      · rw [hfilter, List.map_map, List.map_map]
        rfl
      · rfl
  | _ => rfl

/-- The accesses to bound names are those at the parts of the tree. -/
theorem accesses_eq (bound : List String) (source : String) (tree : Tree) :
    tree.accesses bound source = (tree.sites (accessed bound source)).map Prod.snd := by
  induction tree with
  | «attribute» owner attr line column ih =>
      rw [accesses, map_snd_sites_attribute, ih, accessed]
      split <;> rfl
  | join first second ihFirst ihSecond =>
      rw [accesses, map_snd_sites_join, ihFirst, ihSecond]
      rfl
  | _ => rfl

private theorem nodup_imported (node : Tree) :
    ((imported modules source node).map Prod.fst).Nodup := by
  cases node with
  | importsFrom origin aliases line column =>
      rw [imported]
      split
      · have hpositions : (aliases.zipIdx.map Prod.snd).Nodup := by
          rw [List.zipIdx_map_snd]
          exact List.nodup_range'
        rw [List.map_map]
        exact hpositions.sublist (List.filter_sublist.map Prod.snd)
      · exact .nil
  | _ => exact .nil

private theorem nodup_accessed (node : Tree) :
    ((accessed bound source node).map Prod.fst).Nodup := by
  cases node with
  | «attribute» owner attr line column =>
      rw [accessed]
      split
      · exact List.nodup_singleton 0
      · exact .nil
  | _ => exact .nil

/-- What is imported at a place of a tree. -/
theorem mem_sites_imported {tree : Tree} {site : Site} {r : Reference} :
    (site, r) ∈ tree.sites (imported modules source) ↔
      ∃ origin aliases line column a,
        tree.part? site.steps = some (.importsFrom origin aliases line column) ∧
        (origin ≠ "" ∧ EndsInModule modules origin) ∧
        (aliases[site.position]? = some a ∧ a.name ≠ "*") ∧
        r = ⟨a.name, line, column, source⟩ := by
  rw [mem_sites]
  constructor
  · rintro ⟨node, hpart, hgiven⟩
    cases node with
    | importsFrom origin aliases line column =>
        rw [imported] at hgiven
        split at hgiven
        · rename_i horigin
          obtain ⟨⟨a, position⟩, ha, heq⟩ := List.mem_map.mp hgiven
          obtain ⟨rfl, rfl⟩ := Prod.mk.inj heq
          obtain ⟨ha, hstar⟩ := List.mem_filter.mp ha
          exact ⟨origin, aliases, line, column, a, hpart,
            ⟨horigin.1, isGenerated_iff.mp horigin.2⟩,
            ⟨List.mk_mem_zipIdx_iff_getElem?.mp ha, of_decide_eq_true hstar⟩, rfl⟩
        · cases hgiven
    | _ => cases hgiven
  · rintro ⟨origin, aliases, line, column, a, hpart, ⟨hne, horigin⟩, ⟨ha, hstar⟩, rfl⟩
    refine ⟨_, hpart, ?_⟩
    rw [imported, if_pos ⟨hne, isGenerated_iff.mpr horigin⟩]
    have hmem : (a, site.position) ∈ aliases.zipIdx := List.mk_mem_zipIdx_iff_getElem?.mpr ha
    exact List.mem_map.mpr
      ⟨(a, site.position), List.mem_filter.mpr ⟨hmem, decide_eq_true hstar⟩, rfl⟩

/-- What is accessed at a place of a tree. -/
theorem mem_sites_accessed {tree : Tree} {site : Site} {r : Reference} :
    (site, r) ∈ tree.sites (accessed bound source) ↔
      ∃ owner attr line column dotted,
        tree.part? site.steps = some (.attribute owner attr line column) ∧ site.position = 0 ∧
        (Dotted owner dotted ∧ dotted ∈ bound) ∧ r = ⟨attr, line, column, source⟩ := by
  rw [mem_sites]
  constructor
  · rintro ⟨node, hpart, hgiven⟩
    cases node with
    | «attribute» owner attr line column =>
        rw [accessed] at hgiven
        split at hgiven
        · rename_i hbound
          obtain ⟨hposition, rfl⟩ := Prod.mk.inj (List.mem_singleton.mp hgiven)
          cases hdotted : owner.dottedName? with
          | none =>
              rw [hdotted] at hbound
              cases hbound
          | some dotted =>
              rw [hdotted] at hbound
              exact ⟨owner, attr, line, column, dotted, hpart, hposition,
                ⟨dottedName?_eq_some_iff.mp hdotted, List.contains_iff_mem.mp hbound⟩, rfl⟩
        · cases hgiven
    | _ => cases hgiven
  · rintro ⟨owner, attr, line, column, dotted, hpart, hposition, ⟨hdotted, hmem⟩, rfl⟩
    refine ⟨_, hpart, ?_⟩
    have hbound : owner.dottedName?.any bound.contains = true := by
      rw [dottedName?_eq_some_iff.mpr hdotted]
      exact List.contains_iff_mem.mpr hmem
    rw [accessed, if_pos hbound, hposition]
    exact List.mem_singleton.mpr rfl

/-- A tree takes a name at a place by an import or by an access. -/
theorem takes_iff {tree : Tree} {site : Site} {r : Reference} :
    Takes modules source tree site r ↔ (site, r) ∈ tree.sites (imported modules source) ∨
      (site, r) ∈ tree.sites (accessed (tree.bindings modules) source) := by
  rw [mem_sites_imported, mem_sites_accessed]
  constructor
  · intro h
    cases h with
    | access hpart hdotted hbound =>
        exact .inr ⟨_, _, _, _, _, hpart, rfl, ⟨hdotted, mem_bindings.mpr hbound⟩, rfl⟩
    | imported hpart hne horigin ha hstar =>
        exact .inl ⟨_, _, _, _, _, hpart, ⟨hne, horigin⟩, ⟨ha, hstar⟩, rfl⟩
  · obtain ⟨steps, position⟩ := site
    rintro (⟨_, _, _, _, _, hpart, ⟨hne, horigin⟩, ⟨ha, hstar⟩, rfl⟩ |
      ⟨_, _, _, _, _, hpart, hposition, ⟨hdotted, hmem⟩, rfl⟩)
    · exact .imported hpart hne horigin ha hstar
    · obtain rfl : position = 0 := hposition
      exact .access hpart hdotted (mem_bindings.mp hmem)

end Contributions

/-- No place is both one of an import and one of an access. -/
private theorem nodup_made (modules bound : List String) (source : String) (tree : Tree) :
    ((tree.sites (imported modules source) ++ tree.sites (accessed bound source)).map
      Prod.fst).Nodup := by
  rw [List.map_append, List.nodup_append]
  refine ⟨nodup_sites nodup_imported tree, nodup_sites nodup_accessed tree, ?_⟩
  rintro site hsite _ hsite' rfl
  obtain ⟨⟨site, r⟩, himported, rfl⟩ := List.mem_map.mp hsite
  obtain ⟨⟨_, r'⟩, haccessed, rfl⟩ := List.mem_map.mp hsite'
  obtain ⟨_, _, _, _, _, hpart, -⟩ := mem_sites_imported.mp himported
  obtain ⟨_, _, _, _, _, hpart', -⟩ := mem_sites_accessed.mp haccessed
  rw [hpart] at hpart'
  cases Option.some.inj hpart'

end Tree

/-- The references of a tree stand in the order of their places. -/
theorem pairwise_references (modules : List String) (source : String) (tree : Tree) :
    (tree.references modules source).Pairwise fun a b =>
      a.line < b.line ∨ a.line = b.line ∧ a.column ≤ b.column :=
  (pairwise_sortBy Reference.precedes_total Reference.precedes_trans _).imp
    Reference.precedes_iff.mp

/-- The references of a tree are those that it makes at its places, one for each place. -/
theorem exists_made (modules : List String) (source : String) (tree : Tree) :
    ∃ made : List (Site × Reference), (made.map Prod.fst).Nodup ∧
      (∀ site r, (site, r) ∈ made ↔ tree.Takes modules source site r) ∧
      made.map Prod.snd = tree.references modules source := by
  let found := tree.sites (Tree.imported modules source) ++
    tree.sites (Tree.accessed (tree.bindings modules) source)
  let le : Site × Reference → Site × Reference → Bool := fun a b => Reference.precedes a.2 b.2
  refine ⟨sortBy le found, ?_, fun site r => ?_, ?_⟩
  · exact ((sortBy_perm le found).map Prod.fst).nodup_iff.mpr (Tree.nodup_made _ _ _ _)
  · rw [mem_sortBy, List.mem_append, Tree.takes_iff]
  · rw [map_sortBy Prod.snd Reference.precedes, List.map_append, ← Tree.importedNames_eq,
      ← Tree.accesses_eq]
    rfl

/-- Reference finding is complete, whatever the parser. The references in the text of a caller are
those of its tree, unless the parser refuses the text. For every tree they stand in the order of
lines and columns and are those that the tree takes at its places: each place where it takes a name
makes one of them, no matter where the imports stand, and nothing else makes one. -/
theorem findReferences_complete (parser : Parser) (modules : List String) (source : String) :
    (∀ text, findReferences text modules source parser =
      (parser text).map fun tree => tree.references modules source) ∧
    ∀ tree : Tree,
      ((tree.references modules source).Pairwise fun a b =>
        a.line < b.line ∨ a.line = b.line ∧ a.column ≤ b.column) ∧
      ∃ made : List (Site × Reference), (made.map Prod.fst).Nodup ∧
        (∀ site r, (site, r) ∈ made ↔ tree.Takes modules source site r) ∧
        made.map Prod.snd = tree.references modules source :=
  ⟨fun _ => rfl, fun tree =>
    ⟨pairwise_references modules source tree, exists_made modules source tree⟩⟩

-- An access in front of its import, inside a longer chain; a name that is imported twice; a star.
example : Tree.references ["i18n"] "views"
    (.ofList [.attribute (.attribute (.attribute (.name "pkg") "i18n" 2 11) "key" 2 11) "attr" 2 11,
      .importsFrom "i18n" [⟨"a", none⟩, ⟨"a", some "b"⟩] 4 0, .imports [⟨"pkg.i18n", none⟩],
      .importsFrom "pkg.i18n" [⟨"*", none⟩] 1 0]) =
    [⟨"key", 2, 11, "views"⟩, ⟨"a", 4, 0, "views"⟩, ⟨"a", 4, 0, "views"⟩] := by
  decide

end Caller

end Phrasebook
