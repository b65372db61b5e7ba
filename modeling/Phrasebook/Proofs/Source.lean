import Phrasebook.Proofs.Compilation.Independence
import Phrasebook.Proofs.Section.Reading
import Phrasebook.Proofs.Text.Utf8

/-!
# Sources of one text

A text can be given as it is, as a stream of its characters or of its bytes, or as a file of its
bytes. Where every carriage return of the text stands right before a line feed, all of these are
read alike: into the same sections under another label, or into the same fault. A source among
others may therefore be exchanged without any change to the module.
-/

namespace Phrasebook

open Text

namespace Source

/-- A source of a text: the text itself, a stream of its characters or bytes, or a file that holds
its bytes. -/
inductive Holds (store : Store) (text : String) : Source → Prop
  | text : Holds store text (.text text)
  | file {path : Path} (h : store.read path = .ok (encodeUtf8 text.toList)) :
      Holds store text (.file path)
  | stream (name : Option String) : Holds store text (.stream text name)
  | bytes (name : Option String) : Holds store text (.bytes (encodeUtf8 text.toList) name)
  | opened {name : String} (binary : Bool)
      (h : store.read (Path.ofText name) = .ok (encodeUtf8 text.toList)) :
      Holds store text (.opened name binary)

/-- Outcomes of reading that differ in the label alone: sections, or an entry outside of sections on
one line. -/
inductive SameReading (label label' : String) :
    Except Fault Sections → Except Fault Sections → Prop
  | sections (s : Sections) :
      SameReading label label' (.ok (s.labelled label)) (.ok (s.labelled label'))
  | outside (line : Nat) :
      SameReading label label' (.error (.keyValueOutsideSection label line))
        (.error (.keyValueOutsideSection label' line))

variable {store : Store} {text : String} {x y : Source}

/-- The bytes of a text are decoded to it. -/
theorem decode_encodeUtf8 (text : List Char) : decode (encodeUtf8 text) = .ok text := by
  rw [decode, decodeUtf8_encodeUtf8]

theorem fileText_of_read {path : Path} (h : store.read path = .ok (encodeUtf8 text.toList)) :
    fileText store path = .ok (unifyNewlines text.toList) := by
  rw [fileText, h]
  change (decode _ >>= fun characters => Except.ok (unifyNewlines characters)) = _
  rw [decode_encodeUtf8]
  rfl

/-- A source of a text yields it, possibly with unified line endings. -/
theorem content_of_holds (h : x.Holds store text) :
    x.content store = .ok text.toList ∨ x.content store = .ok (unifyNewlines text.toList) := by
  cases h with
  | text => exact .inl rfl
  | file h => exact .inr (fileText_of_read h)
  | stream name => exact .inl rfl
  | bytes name => exact .inl (decode_encodeUtf8 _)
  | opened binary h =>
      cases binary with
      | false => exact .inr (fileText_of_read h)
      | true =>
          left
          change (store.read _ >>= decode) = _
          rw [h]
          exact decode_encodeUtf8 _

/-- A source of a text is read as the text is, under its own label. -/
theorem read_of_holds (hreturns : PairedReturns text.toList) (h : x.Holds store text)
    (name : Option String) :
    x.read store name = Sections.ofText (x.label name) text.toList := by
  rcases content_of_holds h with h | h
  · rw [read, h]
  · rw [read, h]
    exact Sections.ofText_unifyNewlines hreturns

/-- A text is read alike under any two labels. -/
theorem sameReading_ofText (label label' : String) (text : List Char) :
    SameReading label label' (Sections.ofText label text) (Sections.ofText label' text) := by
  rw [Sections.ofText_labelled "" label, Sections.ofText_labelled "" label']
  cases hread : Sections.ofText "" text with
  | ok sections => exact .sections sections
  | error fault =>
      obtain ⟨line, -, rfl⟩ := Sections.exists_of_ofText_error hread
      exact .outside line

end Source

section Relocation

/-- An entry says the same as itself. -/
theorem Entry.Relocated.refl (e : Entry) : e.Relocated e := ⟨rfl, rfl, .rfl⟩

theorem Section.Relocated.refl (s : Section) : s.Relocated s :=
  ⟨rfl, List.forall₂_same.mpr fun e _ => .refl e⟩

theorem Section.relocated_labelled (label label' : String) (s : Section) :
    (s.labelled label).Relocated (s.labelled label') := by
  refine ⟨rfl, ?_⟩
  rw [Section.labelled, Section.labelled, List.forall₂_map_left_iff, List.forall₂_map_right_iff]
  exact List.forall₂_same.mpr fun e _ => ⟨rfl, rfl, .rfl⟩

namespace Sections

variable {s s' : Sections}

/-- Sections say the same under any two labels. -/
theorem relocated_labelled (label label' : String) (s : Sections) :
    List.Forall₂ Section.Relocated (s.labelled label) (s.labelled label') := by
  rw [labelled, labelled, List.forall₂_map_left_iff, List.forall₂_map_right_iff]
  exact List.forall₂_same.mpr fun t _ => t.relocated_labelled label label'

theorem keys_eq_of_relocated (h : List.Forall₂ Section.Relocated s s') : s.keys = s'.keys := by
  rw [keys, keys, ← List.forall₂_eq_eq_eq, List.forall₂_map_left_iff, List.forall₂_map_right_iff]
  exact h.imp fun _ _ ht => ht.key

/-- Sections that say the same still do when sections that say the same are put among them. -/
theorem put_relocated (h : List.Forall₂ Section.Relocated s s') {t t' : Section}
    (ht : t.Relocated t') : List.Forall₂ Section.Relocated (s.put t) (s'.put t') := by
  rw [put, put, keys_eq_of_relocated h, ht.key]
  split
  · rw [List.forall₂_map_left_iff, List.forall₂_map_right_iff]
    refine h.imp fun u u' hu => ?_
    rw [hu.key]
    split
    · exact ht
    · exact hu
  · exact List.rel_append h (.cons ht .nil)

/-- Catalogs that say the same are merged into sections that say the same. -/
theorem merge_relocated {catalogs catalogs' : List Sections}
    (h : List.Forall₂ (List.Forall₂ Section.Relocated) catalogs catalogs') :
    List.Forall₂ Section.Relocated (merge catalogs) (merge catalogs') := by
  refine List.rel_foldl (P := List.Forall₂ Section.Relocated) (R := Section.Relocated) ?_ .nil
    (List.rel_flatten h)
  exact fun s s' hs t t' ht => put_relocated hs ht

end Sections

end Relocation

namespace Source

/-- Faults that differ at most in the place that they name. -/
abbrev FaultsAlike (f g : Fault) : Prop := Error.Alike (.fault f) (.fault g)

/-- Sources that are read alike at every position of a list. -/
def ReadAlike (store : Store) (x y : Source) : Prop :=
  ∀ position, Corresponds FaultsAlike (List.Forall₂ Section.Relocated)
    (x.read store (x.numberedName position)) (y.read store (y.numberedName position))

variable {store : Store} {sources sources' : List Source}

/-- Outcomes that differ in the label say the same. -/
theorem SameReading.corresponds {label label' : String} {r r' : Except Fault Sections}
    (h : SameReading label label' r r') :
    Corresponds FaultsAlike (List.Forall₂ Section.Relocated) r r' := by
  cases h with
  | sections s => exact .ok (Sections.relocated_labelled label label' s)
  | outside line => exact .error (.fault rfl rfl rfl)

/-- A source is read as itself. -/
theorem ReadAlike.refl (x : Source) : ReadAlike store x x := by
  intro position
  cases x.read store (x.numberedName position) with
  | ok s => exact .ok (List.forall₂_same.mpr fun t _ => .refl t)
  | error f => exact .error (.fault rfl rfl rfl)

/-- Lists of sources are read alike if their sources are. -/
theorem readEach_corresponds (h : List.Forall₂ (ReadAlike store) sources sources')
    (position : Nat) :
    Corresponds FaultsAlike (List.Forall₂ (List.Forall₂ Section.Relocated))
      (readEach store position sources) (readEach store position sources') := by
  induction h generalizing position with
  | nil => exact .ok .nil
  | cons hxy _ ih =>
      refine (hxy position).bind fun s s' hs => ?_
      exact (ih (position + 1)).bind fun l l' hl => .ok (.cons hs hl)

theorem readAll_corresponds (h : List.Forall₂ (ReadAlike store) sources sources') :
    Corresponds Error.Alike (List.Forall₂ Section.Relocated) (liftM (readAll store sources))
      (liftM (readAll store sources')) := by
  have heach := readEach_corresponds h 1
  rw [readAll, readAll]
  revert heach
  generalize readEach store 1 sources = r
  generalize readEach store 1 sources' = r'
  rintro (hcatalogs | hfault)
  · exact .ok (Sections.merge_relocated hcatalogs)
  · exact .error hfault

/-- Sources of a text are read into the same sections or the same fault, apart from the label. One
of them may take the place of another among the sources of a catalog: both catalogs have the same
module, or both fail alike. -/
theorem read_and_load_of_holds {store : Store} {text : String}
    (hreturns : PairedReturns text.toList) {x y : Source} (hx : x.Holds store text)
    (hy : y.Holds store text) :
    (∀ name name', SameReading (x.label name) (y.label name') (x.read store name)
      (y.read store name')) ∧
    ∀ (before after : List Source) (config settings : Config) (data : LocaleData),
      Corresponds Error.Alike
        (fun c c' => c.moduleText settings data = c'.moduleText settings data)
        (Catalog.load store (before ++ x :: after) config)
        (Catalog.load store (before ++ y :: after) config) := by
  have hread : ∀ name name', SameReading (x.label name) (y.label name') (x.read store name)
      (y.read store name') := by
    intro name name'
    rw [read_of_holds hreturns hx, read_of_holds hreturns hy]
    exact sameReading_ofText _ _ _
  refine ⟨hread, fun before after config settings data => ?_⟩
  have hxy : ReadAlike store x y := fun position => (hread _ _).corresponds
  have hsame (sources : List Source) : List.Forall₂ (ReadAlike store) sources sources :=
    List.forall₂_same.mpr fun z _ => .refl z
  have hsources : List.Forall₂ (ReadAlike store) (before ++ x :: after) (before ++ y :: after) :=
    List.rel_append (hsame before) (.cons hxy (hsame after))
  refine (readAll_corresponds hsources).bind fun s s' hs => ?_
  refine (Catalog.compile_corresponds hs config).imp fun c c' hc => ?_
  rw [← Catalog.moduleText_unplaced c, hc, Catalog.moduleText_unplaced]

/-- A text with both kinds of line endings. -/
def mixedEndings : String := "[menu.open]\r\nen = Open\nde = Öffnen\r\n"

/-- A store with the text in a file. -/
def shelf : Store := { nodes := [(["menu.ini"], .file (encodeUtf8 mixedEndings.toList))] }

/-- The text and the file of it are read alike, and either gives the module of the other. -/
theorem read_and_load_mixedEndings :
    PairedReturns mixedEndings.toList ∧
    SameReading "<string>" "menu.ini" ((Source.text mixedEndings).read shelf)
      ((Source.file (.ofText "menu.ini")).read shelf) ∧
    Corresponds Error.Alike (fun c c' => c.moduleText {} .absent = c'.moduleText {} .absent)
      (Catalog.load shelf [.text mixedEndings])
      (Catalog.load shelf [.file (.ofText "menu.ini")]) := by
  have hreturns : PairedReturns mixedEndings.toList := by decide +kernel
  have hfile : (Source.file (.ofText "menu.ini")).Holds shelf mixedEndings := .file rfl
  obtain ⟨hread, hload⟩ := read_and_load_of_holds hreturns .text hfile
  exact ⟨hreturns, hread none none, hload [] [] {} {} .absent⟩

end Source

end Phrasebook
