import Phrasebook.Proofs.Generated.Method
import Phrasebook.Proofs.Key

/-!
# The class of locales in a generated module

The lines of a module define one class of locales. Its tables are the languages of the module and,
if the module reads and writes locales, the regions. Three of its methods matter here: the check of
a new locale, and with a table of regions the one that writes a locale and the one that reads it.
The lines that differ from module to module, which are those of the description, the names that are
offered, the constructors and the functions, are read as none of these.
-/

namespace Phrasebook.Generated

open Code Text

section Tables

/-- The last literal of a list may have a comma behind it. -/
private theorem readLiterals?_last {text value after : List Char}
    (h : readLiteral? text = some (value, after)) (hafter : after = [] ∨ after = [',']) :
    readLiterals? text = some [String.ofList value] := by
  have hrest : ", ".toList.isPrefixOf? after = none := by
    rcases hafter with rfl | rfl <;> rfl
  rw [readLiterals?]
  split
  · rename_i h'
    cases h'.symm.trans h
  · rename_i h'
    obtain ⟨rfl, rfl⟩ := Prod.mk.inj (Option.some.inj (h.symm.trans h'))
    split
    · rename_i hrest'
      cases hrest'.symm.trans hrest
    · rw [if_pos hafter]

/-- A literal with a comma and a space behind it is followed by others. -/
private theorem readLiterals?_more {text value rest : List Char}
    (h : readLiteral? text = some (value, ", ".toList ++ rest)) :
    readLiterals? text = (readLiterals? rest).map (String.ofList value :: ·) := by
  have hrest := isPrefixOf?_append ", ".toList rest
  rw [readLiterals?]
  split
  · rename_i h'
    cases h'.symm.trans h
  · rename_i h'
    obtain ⟨rfl, rfl⟩ := Prod.mk.inj (Option.some.inj (h.symm.trans h'))
    split
    · rename_i hrest'
      obtain rfl := Option.some.inj (hrest.symm.trans hrest')
      rfl
    · rename_i hrest'
      cases hrest'.symm.trans hrest

/-- Literals between commas are read one by one. -/
theorem readLiterals?_intercalate (first : String) (others : List String) :
    readLiterals? (", ".intercalate ((first :: others).map literal)).toList =
      some (first :: others) := by
  induction others generalizing first with
  | nil =>
      have hlast := readLiterals?_last (readLiteral?_literal_alone first) (.inl rfl)
      simpa using hlast
  | cons next others ih =>
      have hsplit : (", ".intercalate ((first :: next :: others).map literal)).toList =
          (literal first).toList ++
            (", ".toList ++ (", ".intercalate ((next :: others).map literal)).toList) := by
        simp only [String.toList_intercalate, List.map_cons, List.intercalate_cons_cons,
          List.append_assoc]
      rw [hsplit, readLiterals?_more (readLiteral?_literal first _), ih, String.ofList_toList]
      rfl

/-- What was read as literals is not empty. -/
private theorem ne_nil_of_readLiterals? {text : List Char} {entries : List String}
    (h : readLiterals? text = some entries) : text ≠ [] := by
  rintro rfl
  rw [readLiterals?] at h
  split at h
  · cases h
  · rename_i hread
    cases hread

/-- The entries of a tuple are read back. -/
theorem readTuple?_tuple (entries : List String) :
    readTuple? (tuple (entries.map literal)).toList = some entries := by
  match entries with
  | [] => rfl
  | [entry] =>
      have hread := readLiterals?_last (readLiteral?_literal entry [',']) (.inr rfl)
      have htuple : (tuple ([entry].map literal)).toList =
          "(".toList ++ (((literal entry).toList ++ [',']) ++ ")".toList) := by
        simp [tuple]
      rw [htuple, readTuple?, between?_append]
      simp [hread]
  | first :: second :: others =>
      have hread := readLiterals?_intercalate first (second :: others)
      have htuple : (tuple ((first :: second :: others).map literal)).toList =
          "(".toList ++ ((", ".intercalate ((first :: second :: others).map literal)).toList ++
            ")".toList) := by
        simp only [List.map_cons, tuple, String.toList_append, List.append_assoc]
      rw [htuple, readTuple?, between?_append]
      simp only [Option.bind_eq_bind, Option.bind_some, if_neg (ne_nil_of_readLiterals? hread),
        hread]
      simp

end Tables

section Depth

/-- Lines of which none stands to the left of the others' level. -/
def Level (lines : List Line) : Prop := ∀ l ∈ lines, 0 ≤ l.depth

@[simp] theorem level_nil : Level [] := by simp [Level]

@[simp] theorem level_cons {l : Line} {lines : List Line} :
    Level (l :: lines) ↔ 0 ≤ l.depth ∧ Level lines := by
  simp [Level]

@[simp] theorem level_append {lines lines' : List Line} :
    Level (lines ++ lines') ↔ Level lines ∧ Level lines' := by
  simp [Level, or_imp, forall_and]

@[simp] theorem level_flatMap {α : Type} {items : List α} {f : α → List Line} :
    Level (items.flatMap f) ↔ ∀ a ∈ items, Level (f a) := by
  simp only [Level, List.mem_flatMap]
  exact ⟨fun h a ha l hl => h l ⟨a, ha, hl⟩, fun h l ⟨a, ha, hl⟩ => h a ha l hl⟩

theorem indent_append (lines lines' : List Line) :
    indent (lines ++ lines') = indent lines ++ indent lines' := List.map_append

@[simp] theorem depth_line (text : String) : (line text).depth = 0 := rfl

@[simp] theorem level_blank (count : Nat) : Level (blank count) := by
  intro l hl
  rw [List.eq_of_mem_replicate hl]
  exact le_rfl

/-- Lines one level deeper are deeper than the level. -/
theorem depth_pos_of_mem_indent {lines : List Line} (h : Level lines) {l : Line}
    (hl : l ∈ indent lines) : 0 < l.depth := by
  obtain ⟨outer, houter, rfl⟩ := List.mem_map.mp hl
  have hdepth := h outer houter
  change 0 < outer.depth + 1
  omega

@[simp] theorem level_indent {lines : List Line} (h : Level lines) : Level (indent lines) :=
  fun _ hl => (depth_pos_of_mem_indent h hl).le

theorem level_map {α : Type} {items : List α} {f : α → Line} (h : ∀ a, (f a).depth = 0) :
    Level (items.map f) := by
  intro l hl
  obtain ⟨a, -, rfl⟩ := List.mem_map.mp hl
  exact (h a).ge

theorem Constructor.level_lines (c : Constructor) : Level c.lines := by
  simp [Constructor.lines]

theorem Constructor.indent_lines (c : Constructor) : indent c.lines =
    [⟨1, ""⟩, ⟨1, "@classmethod"⟩,
      ⟨1, "def " ++ (c.name ++ "(cls, region: str = \"\") -> Self:")⟩,
      ⟨2, "return cls(" ++ literal c.language ++ ", region)"⟩] := by
  rw [← String.append_assoc]
  rfl

theorem Case.level_lines (c : Case) : Level c.lines := by
  simp [Case.lines]

end Depth

section Lines

/-- A line of a table is read as the table. -/
theorem readTable?_table (name head : String) (hname : name.toList.all isNameChar = true)
    (hhead : head = name ++ ": tuple[str, ...] = ") (entries : List String) :
    readTable? (line (head ++ tuple (entries.map literal))) = some (name, entries) := by
  have hspan : spanName (head ++ tuple (entries.map literal)).toList =
      (name, ": tuple[str, ...] = ".toList ++ (tuple (entries.map literal)).toList) := by
    rw [List.all_eq_true] at hname
    rw [spanName, hhead, String.append_assoc, String.toList_append, String.toList_append,
      List.takeWhile_append_of_pos hname, List.dropWhile_append_of_pos hname]
    simp [isNameChar]
  rw [readTable?, line, if_pos rfl, hspan]
  simp only [isPrefixOf?_append, Option.bind_eq_bind, Option.bind_some, readTuple?_tuple]
  rfl

theorem readTable?_tripleQuoted (text : String) : readTable? (line (tripleQuoted text)) = none := by
  rw [readTable?, line, if_pos rfl, tripleQuoted, String.toList_append, String.toList_append]
  rfl

/-- The first line of a function is no table. -/
theorem readTable?_def (text : String) : readTable? (line ("def " ++ text)) = none := by
  rw [readTable?, line, if_pos rfl, String.toList_append]
  rfl

/-- The line of the default locale is no table. -/
theorem readTable?_default (text : String) :
    readTable? (line ("DEFAULT_LANG: Lang = " ++ text)) = none := by
  rw [readTable?, line, if_pos rfl, String.toList_append]
  rfl

/-- The lines of a block are no tables. -/
theorem filterMap_readTable?_indent {lines : List Line} (h : Level lines) :
    (indent lines).filterMap readTable? = [] := by
  rw [List.filterMap_eq_nil_iff]
  exact fun l hl => if_neg (depth_pos_of_mem_indent h hl).ne'

theorem Function.filterMap_readTable?_lines (f : Function) :
    f.lines.filterMap readTable? = [] := by
  rw [Function.lines, List.filterMap_cons, String.append_assoc, String.append_assoc,
    String.append_assoc, readTable?_def]
  refine filterMap_readTable?_indent ?_
  simp [Case.level_lines]

/-- A description does not end with a line that ends in another character than a mark. -/
private theorem closesDescription_append (text ending : String) {c : Char} {rest : List Char}
    (h : ending.toList.reverse = c :: rest) (hc : c ≠ '"') :
    closesDescription (text ++ ending).toList = false := by
  have hmarks : "\"\"\"".toList.reverse = ['"', '"', '"'] := rfl
  rw [closesDescription, List.isSuffixOf, String.toList_append, List.reverse_append, h, hmarks,
    List.cons_append, List.isPrefixOf, beq_false_of_ne hc.symm, Bool.false_and]

/-- The first line of a method declares no field. -/
private theorem fieldOf?_def (text : String) : fieldOf? ⟨1, "def " ++ text⟩ = none := by
  rw [fieldOf?, if_pos rfl, String.toList_append]
  rfl

end Lines

section Methods

variable {name : String} {ofClass : Bool}

/-- Lines that are deeper or empty are taken as a whole. -/
private theorem deeperThan_append {depth : Int} {lines : List Line}
    (h : ∀ l ∈ lines, depth < l.depth ∨ l.text = "") (rest : List Line) :
    deeperThan depth (lines ++ rest) = lines ++ deeperThan depth rest :=
  List.takeWhile_append_of_pos fun l hl => decide_eq_true (h l hl)

/-- The lines inside a method are deeper than the class. -/
theorem one_lt_depth_of_mem_indent {lines : List Line} (h : Level lines) {l : Line}
    (hl : l ∈ indent (indent lines)) : 1 < l.depth := by
  obtain ⟨outer, houter, rfl⟩ := List.mem_map.mp hl
  have hdepth := depth_pos_of_mem_indent h houter
  change 1 < outer.depth + 1
  omega

/-- A line inside a method opens no definition of the class. -/
theorem not_defines_of_mem_indent {lines : List Line} (h : Level lines) :
    ∀ l ∈ indent (indent lines), ¬ Defines name l := by
  intro l hl hdefines
  rw [Defines, signature?, if_neg (one_lt_depth_of_mem_indent h hl).ne'] at hdefines
  cases hdefines

/-- A line that opens the last definition of a method gives the method. -/
theorem Method.find?_cons (text signature : String) {rest : List Line}
    (htext : text = "def " ++ signature) (hname : (spanName signature.toList).1 = name)
    (hrest : ∀ l ∈ rest, ¬ Defines name l) :
    Method.find? name ofClass (⟨1, text⟩ :: rest) =
      some ⟨ofClass, signature.toList, deeperThan 1 rest⟩ := by
  have hnone (ofClass : Bool) : Method.find? name ofClass rest = none := by
    induction rest generalizing ofClass with
    | nil => rfl
    | cons l rest ih =>
        obtain ⟨hl, hrest⟩ := List.forall_mem_cons.mp hrest
        rw [Method.find?, ih hrest, if_neg hl]
        rfl
  have hsignature : signature? ⟨1, text⟩ = some signature.toList := by
    rw [signature?, if_pos rfl, htext, String.toList_append, isPrefixOf?_append]
  have hdefines : Defines name ⟨1, text⟩ := by
    rw [Defines, hsignature, Option.map_some, hname]
  rw [Method.find?, hnone, if_pos hdefines, hsignature]
  rfl

/-- A method that is found behind an empty line counts, whatever stands before. -/
theorem Method.find?_append {m : Method} {lines : List Line}
    (h : Method.find? name false lines = some m) (before : List Line) (depth : Int) :
    Method.find? name ofClass (before ++ ⟨depth, ""⟩ :: lines) = some m := by
  induction before generalizing ofClass with
  | nil =>
      -- The empty line is not the one that would make the method one of the class.
      have hblank : decide ((⟨depth, ""⟩ : Line) = ⟨1, "@classmethod"⟩) = false := by simp
      rw [List.nil_append, Method.find?, hblank, h]
      rfl
  | cons l before ih =>
      rw [List.cons_append, Method.find?, ih]
      rfl

end Methods

section Class

/-- The description of the class. -/
def langDescription (unit : String) : List Line :=
  [line "\"\"\"Locale of a translation lookup.", line "", line "Attributes:",
    line (unit ++ "language: One of the catalog languages"),
    line (unit ++ "region: Region (\"\" when absent), stored lowercase"), line "\"\"\""]

/-- The lines of the fields. -/
def fieldLines : List Line := blank ++ [line "language: str", line "region: str = \"\""]

/-- The lines of the check of a new locale. -/
def checkLines : List Line :=
  blank ++ line "def __post_init__(self) -> None:"
    :: indent (line "if self.language not in _LANGUAGES:"
      :: indent [line "raise ValueError(f\"Unknown language \x7bself.language!r\x7d\")"]
      ++ [line "_set_field(self, \"region\", self.region.lower())"])

/-- The lines of the methods that list locales. -/
def listingLines : List Line :=
  blank ++ [line "@classmethod", line "def all_languages(cls) -> tuple[Self, ...]:"]
    ++ indent [line (tripleQuoted "Every locale of the catalog, in sorted order."),
      line "return ALL_LANGUAGES"]
    ++ blank ++ [line "@classmethod", line "def default(cls) -> Self:"]
    ++ indent [line (tripleQuoted "Smallest locale of the catalog."), line "return DEFAULT_LANG"]

namespace Module

variable {m : Module}

/-- The lines of the class behind its description. -/
def bodyLines (m : Module) : List Line :=
  fieldLines ++ (checkLines ++ (m.constructors.flatMap Constructor.lines ++
    (listingLines ++ if m.regions.isSome then codecLines m.unit else [])))

private theorem level_bodyLines (m : Module) : Level m.bodyLines := by
  have hcodec : Level (if m.regions.isSome then codecLines m.unit else []) := by
    split <;> simp [codecLines, encodeLines, decodeLines]
  simp [bodyLines, fieldLines, checkLines, listingLines, Constructor.level_lines, hcodec]

theorem classLines_eq (m : Module) :
    m.classLines = dataclassLine :: line "class Lang:" ::
      indent (langDescription m.unit ++ m.bodyLines) := by
  simp only [classLines, dataclassLine, bodyLines, langDescription, fieldLines, checkLines,
    listingLines, List.append_assoc, List.cons_append, List.nil_append]

theorem dropDescription_lang (unit : String) (lines : List Line) :
    dropDescription (indent (langDescription unit) ++ lines) = lines := by
  have hlanguage := closesDescription_append unit "language: One of the catalog languages" rfl
    (by decide)
  have hregion := closesDescription_append unit
    "region: Region (\"\" when absent), stored lowercase" rfl (by decide)
  change (List.dropWhile (fun l : Line => !closesDescription l.text.toList)
    (⟨1, ""⟩ :: ⟨1, "Attributes:"⟩ :: ⟨1, unit ++ "language: One of the catalog languages"⟩ ::
      ⟨1, unit ++ "region: Region (\"\" when absent), stored lowercase"⟩ :: ⟨1, "\"\"\""⟩ ::
      lines)).tail = lines
  rw [List.dropWhile_cons_of_pos rfl, List.dropWhile_cons_of_pos rfl,
    List.dropWhile_cons_of_pos (by rw [hlanguage]; rfl),
    List.dropWhile_cons_of_pos (by rw [hregion]; rfl),
    List.dropWhile_cons_of_neg (by decide +kernel)]
  rfl

/-- The lines before the tables. -/
def opening (m : Module) : List Line :=
  [line header, line (tripleQuoted m.docstring)] ++ blank
    ++ [line "import dataclasses", line "from typing import Self"] ++ blank
    ++ line "__all__ = [" :: indent (m.exports.map fun name => line (literal name ++ ","))
    ++ [line "]"] ++ blank

/-- The lines of the error of the codec, if there is one. -/
def errorLines (m : Module) : List Line :=
  if m.regions.isSome then codecErrorLines ++ blank 2 else []

theorem lines_eq (m : Module) :
    m.lines = m.opening ++ (m.tableLines ++ (blank 2 ++ (m.errorLines ++ (m.classLines ++
      (blank 2 ++ (m.localeLines ++ m.functions.flatMap fun f => blank 2 ++ f.lines)))))) := by
  rw [lines, errorLines, opening]
  simp only [List.append_assoc]

section Tables

theorem filterMap_readTable?_opening (m : Module) : m.opening.filterMap readTable? = [] := by
  have hexports : (indent (m.exports.map fun name => line (literal name ++ ","))).filterMap
      readTable? = [] := filterMap_readTable?_indent (level_map fun _ => rfl)
  simp only [opening, List.filterMap_append, List.filterMap_cons, hexports,
    readTable?_tripleQuoted]
  rfl

/-- The languages of a module, and its regions if it reads and writes locales. -/
def tables (m : Module) : List (String × List String) :=
  ("_LANGUAGES", m.languages) :: m.regions.toList.map ("_REGIONS", ·)

theorem filterMap_readTable?_tableLines (m : Module) :
    m.tableLines.filterMap readTable? = m.tables := by
  have hlanguages := readTable?_table "_LANGUAGES" "_LANGUAGES: tuple[str, ...] = " (by decide) rfl
    m.languages
  have hregions := readTable?_table "_REGIONS" "_REGIONS: tuple[str, ...] = " (by decide) rfl
  rw [tableLines, tables, List.cons_append, List.filterMap_cons_some hlanguages]
  cases m.regions with
  | none => rfl
  | some regions =>
      rw [Option.map_some, Option.toList_some, List.singleton_append,
        List.filterMap_cons_some (hregions regions)]
      rfl

theorem filterMap_readTable?_errorLines (m : Module) : m.errorLines.filterMap readTable? = [] := by
  rw [errorLines]
  split <;> rfl

theorem filterMap_readTable?_classLines (m : Module) :
    m.classLines.filterMap readTable? = [] := by
  have hbody : (indent (langDescription m.unit ++ m.bodyLines)).filterMap readTable? = [] :=
    filterMap_readTable?_indent (by simp [langDescription, level_bodyLines])
  rw [classLines_eq, List.filterMap_cons_none rfl, List.filterMap_cons_none rfl, hbody]

theorem filterMap_readTable?_localeLines (m : Module) :
    m.localeLines.filterMap readTable? = [] := by
  have hlocales : (indent (m.locales.map localeLine)).filterMap readTable? = [] :=
    filterMap_readTable?_indent (level_map fun _ => rfl)
  rw [localeLines, List.cons_append, List.filterMap_cons_none rfl, List.filterMap_append, hlocales,
    List.nil_append, List.filterMap_cons_none rfl,
    List.filterMap_cons_none (readTable?_default _)]
  rfl

/-- The lines of a module define its tables. -/
theorem filterMap_readTable?_lines (m : Module) : m.lines.filterMap readTable? = m.tables := by
  have hfunctions :
      (m.functions.flatMap fun f => blank 2 ++ f.lines).filterMap readTable? = [] := by
    rw [List.filterMap_flatMap, List.flatMap_eq_nil_iff]
    intro f hf
    rw [List.filterMap_append, f.filterMap_readTable?_lines]
    rfl
  rw [lines_eq]
  simp only [List.filterMap_append, filterMap_readTable?_opening, filterMap_readTable?_tableLines,
    filterMap_readTable?_errorLines, filterMap_readTable?_classLines,
    filterMap_readTable?_localeLines, hfunctions]
  exact List.append_nil m.tables

end Tables

section Body

private theorem ne_dataclassLine_of_head {before : String} {c : Char} {rest : List Char}
    (h : before.toList = c :: rest) (hc : c ≠ '@') (after : String) :
    line (before ++ after) ≠ dataclassLine := by
  intro he
  have hhead := congrArg (fun l : Line => l.text.toList.head?) he
  change (before ++ after).toList.head? = some '@' at hhead
  rw [String.toList_append, h, List.cons_append, List.head?_cons, Option.some.injEq] at hhead
  exact hc hhead

/-- No line before the class opens it. -/
private theorem forall_ne_dataclassLine (m : Module) :
    ∀ l ∈ m.opening ++ (m.tableLines ++ (blank 2 ++ m.errorLines)), l ≠ dataclassLine := by
  have hdocstring : line (tripleQuoted m.docstring) ≠ dataclassLine := by
    rw [tripleQuoted, String.append_assoc]
    exact ne_dataclassLine_of_head rfl (by decide) _
  have hexports : ∀ l ∈ indent (m.exports.map fun name => line (literal name ++ ",")),
      l ≠ dataclassLine := by
    rintro l hl rfl
    exact absurd (depth_pos_of_mem_indent (level_map fun _ => rfl) hl) (by decide)
  have htables : ∀ l ∈ m.tableLines, l ≠ dataclassLine := by
    simp only [tableLines, List.forall_mem_append, List.forall_mem_cons]
    refine ⟨⟨ne_dataclassLine_of_head rfl (by decide) _, ?_⟩, by decide⟩
    intro l hl
    obtain ⟨regions, -, rfl⟩ := Option.map_eq_some_iff.mp (Option.mem_toList.mp hl)
    exact ne_dataclassLine_of_head rfl (by decide) _
  have herrors : ∀ l ∈ m.errorLines, l ≠ dataclassLine := by
    rw [errorLines]
    split <;> decide
  simp only [opening, List.forall_mem_append, List.forall_mem_cons]
  and_intros
  all_goals first | exact hdocstring | exact hexports | exact htables | exact herrors | decide

theorem classBody?_lines (m : Module) :
    classBody? m.lines = some (indent (langDescription m.unit ++ m.bodyLines) ++ blank 2) := by
  have hdrop : m.lines.dropWhile (· ≠ dataclassLine) =
      m.classLines ++ (blank 2 ++ (m.localeLines ++
        m.functions.flatMap fun f => blank 2 ++ f.lines)) := by
    have hbefore := m.forall_ne_dataclassLine
    have hlines : m.lines = (m.opening ++ (m.tableLines ++ (blank 2 ++ m.errorLines))) ++
        (m.classLines ++ (blank 2 ++ (m.localeLines ++
          m.functions.flatMap fun f => blank 2 ++ f.lines))) := by
      rw [lines_eq]
      simp only [List.append_assoc]
    rw [hlines, List.dropWhile_append_of_pos fun l hl => decide_eq_true (hbefore l hl),
      classLines_eq]
    rfl
  have hlevel : Level (langDescription m.unit ++ m.bodyLines) := by
    simp [langDescription, level_bodyLines]
  have hdeeper : ∀ l ∈ indent (langDescription m.unit ++ m.bodyLines),
      decide (0 < l.depth ∨ l.text = "") = true := fun l hl =>
    decide_eq_true (.inl (depth_pos_of_mem_indent hlevel hl))
  rw [classBody?, hdrop, classLines_eq]
  simp only [List.cons_append, if_true]
  rw [deeperThan, List.takeWhile_append_of_pos hdeeper]
  rfl

/-- The class that the lines of a module define. -/
def langClass (m : Module) : Class where
  tables := m.tables
  fields := [⟨"language", none⟩, ⟨"region", some ""⟩]
  body := indent m.bodyLines ++ blank 2

theorem dropDescription_body (m : Module) :
    dropDescription (indent (langDescription m.unit ++ m.bodyLines) ++ blank 2) =
      indent m.bodyLines ++ blank 2 := by
  rw [indent_append, List.append_assoc, dropDescription_lang]

theorem filterMap_fieldOf?_bodyLines (m : Module) :
    (indent m.bodyLines ++ blank 2).filterMap fieldOf? =
      [⟨"language", none⟩, ⟨"region", some ""⟩] := by
  have hfields : (indent fieldLines).filterMap fieldOf? =
      [⟨"language", none⟩, ⟨"region", some ""⟩] := by
    decide +kernel
  have hcheck : (indent checkLines).filterMap fieldOf? = [] := by decide +kernel
  have hconstructors :
      (indent (m.constructors.flatMap Constructor.lines)).filterMap fieldOf? = [] := by
    rw [indent, List.map_flatMap, List.filterMap_flatMap, List.flatMap_eq_nil_iff]
    intro c _
    rw [← indent, c.indent_lines, List.filterMap_cons_none rfl, List.filterMap_cons_none rfl,
      List.filterMap_cons_none (fieldOf?_def _)]
    rfl
  have hlisting : (indent listingLines).filterMap fieldOf? = [] := by decide +kernel
  have hcodec : (indent (if m.regions.isSome then codecLines m.unit else [])).filterMap fieldOf? =
      [] := by
    split <;> rfl
  simp only [bodyLines, indent_append, List.filterMap_append, hfields, hcheck, hconstructors,
    hlisting, hcodec]
  rfl

/-- A module has the lines that its methods use. -/
theorem supportLines_subset (m : Module) : supportLines m.tables ⊆ m.lines := by
  rw [lines_eq, errorLines, supportLines, tables]
  cases m.regions with
  | none => simp [tableLines]
  | some regions => simp [tableLines, codecErrorLines]

/-- The lines of a module define the class of locales. -/
theorem read?_lines (m : Module) : Class.read? m.lines = some m.langClass := by
  rw [Class.read?, classBody?_lines]
  simp only [Option.bind_eq_bind, Option.bind_some, filterMap_readTable?_lines,
    if_pos m.supportLines_subset, dropDescription_body, filterMap_fieldOf?_bodyLines]
  rfl

end Body

section Methods

/-- What the check of a new locale does. -/
def checkBlock : Block :=
  .guarded (.negation (.listed (.field "language") "_LANGUAGES"))
    (.step (.fail "ValueError"
      [.plain "Unknown language ", .quoted (.field "language"), .plain ""]) .done)
    (.step (.store "region" (.lower (.field "region"))) .done)

/-- What the method that writes a locale does. -/
def encodeBlock : Block :=
  .guarded (.negation (.given (.field "region"))) (.step (.give (.field "language")) .done)
    (.step (.give (.append (.append (.field "language") (.literal "_")) (.upper (.field "region"))))
      .done)

/-- The statement that reports an unknown part of the text of a locale. -/
def decodeError (part : String) : Statement :=
  .fail "UnknownLocaleOnDecode" [.plain ("Unknown " ++ part ++ " "), .quoted (.named part),
    .plain " in locale ", .quoted (.named "value"), .plain ""]

/-- What the method that reads a locale does with the language and the region. -/
def partsBlock : Block :=
  .guarded (.both (.given (.named "region")) (.negation (.listed (.named "region") "_REGIONS")))
    (.step (decodeError "region") .done)
    (.guarded (.negation (.listed (.named "language") "_LANGUAGES"))
      (.step (decodeError "language") .done)
      (.step (.make [.named "language", .named "region"]) .done))

/-- What the method that reads a locale does. -/
def decodeBlock : Block :=
  .step (.assign ["lowered"] [.lower (.named "value")])
    (.guarded (.listed (.named "lowered") "_LANGUAGES") (.step (.make [.named "lowered"]) .done)
      (.step (.cut ["language", "separator", "region"] (.named "lowered") '_')
        (.guarded (.negation (.given (.named "separator")))
          (.step (.assign ["language", "region"] [.named "lowered", .literal ""]) .done)
          partsBlock)))

/-- A method that is found is read by its signature and its body. -/
theorem routine?_of_find? {c : Class} {name signature : String} {ofClass : Bool} {body : List Line}
    (hfind : Method.find? name false c.body = some ⟨ofClass, signature.toList, body⟩)
    {parameters : List Parameter}
    (hparameters : readSignature? ofClass signature.toList = some parameters)
    {block : Block} (hblock : Block.read? 2 (dropDescription body) = some block) :
    c.routine? ofClass name = some ⟨parameters, block⟩ := by
  rw [Class.routine?, hfind]
  simp only [Option.bind_eq_bind, Option.bind_some, if_true, Method.read?, hparameters, hblock]
  rfl

/-- The lines of the method that shows a locale. -/
def showLines : List Line :=
  line "def __str__(self) -> str:" :: indent [line "return self.encode()"]

theorem codecLines_eq (unit : String) : codecLines unit =
    blank ++ (encodeLines ++ (blank ++ (showLines ++ (blank ++ decodeLines unit)))) := by
  simp only [codecLines, showLines, List.append_assoc]

/-- The description of the method that reads a locale. -/
def decodeDescription (unit : String) : List Line :=
  [line "\"\"\"Parse \"en\", \"en_GB\" or any casing of them.", line "", line "Raises:",
    line (unit ++ "UnknownLocaleOnDecode: If the language or region is unknown"),
    line "\"\"\""]

/-- The statements of the method that reads a locale. -/
def decodeStatements : List Line :=
  [line "lowered = value.lower()", line "if lowered in _LANGUAGES:"]
    ++ indent [line "return cls(lowered)"]
    ++ [line "language, separator, region = lowered.rpartition(\"_\")", line "if not separator:"]
    ++ indent [line "language, region = lowered, \"\""]
    ++ [line "if region and region not in _REGIONS:"]
    ++ indent [line (decodeErrorStatement "region")]
    ++ [line "if language not in _LANGUAGES:"]
    ++ indent [line (decodeErrorStatement "language")]
    ++ [line "return cls(language, region)"]

theorem decodeLines_eq (unit : String) : decodeLines unit =
    line "@classmethod" :: line "def decode(cls, value: str) -> Self:" ::
      indent (decodeDescription unit ++ decodeStatements) := by
  simp only [decodeLines, decodeDescription, decodeStatements, List.append_assoc, List.cons_append,
    List.nil_append]

private theorem level_decodeBody (unit : String) :
    Level (decodeDescription unit ++ decodeStatements) := by
  simp [decodeDescription, decodeStatements]

theorem dropDescription_decode (unit : String) (lines : List Line) :
    dropDescription (indent (indent (decodeDescription unit)) ++ lines) = lines := by
  have hraises := closesDescription_append unit
    "UnknownLocaleOnDecode: If the language or region is unknown" rfl (by decide)
  change (List.dropWhile (fun l : Line => !closesDescription l.text.toList)
    (⟨2, ""⟩ :: ⟨2, "Raises:"⟩ ::
      ⟨2, unit ++ "UnknownLocaleOnDecode: If the language or region is unknown"⟩ ::
      ⟨2, "\"\"\""⟩ :: lines)).tail = lines
  rw [List.dropWhile_cons_of_pos rfl, List.dropWhile_cons_of_pos rfl,
    List.dropWhile_cons_of_pos (by rw [hraises]; rfl),
    List.dropWhile_cons_of_neg (by decide +kernel)]
  rfl

/-- The lines of the method that reads a locale define no other one. -/
theorem not_defines_decodeLines {name : String} (h : name ≠ "decode") (unit : String) :
    ∀ l ∈ indent (decodeLines unit), ¬ Defines name l := by
  have hdecode : ¬ Defines name ⟨1, "def decode(cls, value: str) -> Self:"⟩ := by
    intro hdefines
    have hname : some "decode" = some name := hdefines
    exact h (Option.some.inj hname).symm
  rw [decodeLines_eq]
  change ∀ l ∈ (⟨1, "@classmethod"⟩ :: ⟨1, "def decode(cls, value: str) -> Self:"⟩ ::
    indent (indent _) : List Line), _
  rw [List.forall_mem_cons, List.forall_mem_cons]
  exact ⟨nofun, hdecode, not_defines_of_mem_indent (level_decodeBody unit)⟩

/-- With a table of regions the class has the method that reads a locale. -/
theorem routine?_decode (h : m.regions.isSome) :
    m.langClass.routine? true "decode" = some ⟨[⟨"value", none⟩], decodeBlock⟩ := by
  have hlevel := level_decodeBody m.unit
  have hbody : m.langClass.body = indent (fieldLines ++ (checkLines ++
      (m.constructors.flatMap Constructor.lines ++ (listingLines ++ (blank ++ (encodeLines ++
        (blank ++ showLines))))))) ++ ⟨1, ""⟩ :: ⟨1, "@classmethod"⟩ ::
        ⟨1, "def decode(cls, value: str) -> Self:"⟩ ::
        (indent (indent (decodeDescription m.unit ++ decodeStatements)) ++ blank 2) := by
    simp only [langClass, bodyLines, if_pos h, codecLines_eq, decodeLines_eq, indent_append,
      List.append_assoc]
    rfl
  have hinside : ∀ l ∈ indent (indent (decodeDescription m.unit ++ decodeStatements)) ++ blank 2,
      ¬ Defines "decode" l := by
    rw [List.forall_mem_append]
    exact ⟨not_defines_of_mem_indent hlevel, by decide⟩
  have hfind : Method.find? "decode" false (⟨1, "@classmethod"⟩ ::
      ⟨1, "def decode(cls, value: str) -> Self:"⟩ ::
        (indent (indent (decodeDescription m.unit ++ decodeStatements)) ++ blank 2)) =
      some ⟨true, "decode(cls, value: str) -> Self:".toList,
        indent (indent (decodeDescription m.unit ++ decodeStatements)) ++ blank 2⟩ := by
    rw [Method.find?, decide_eq_true rfl, Method.find?_cons "def decode(cls, value: str) -> Self:"
      "decode(cls, value: str) -> Self:" rfl (by decide +kernel) hinside,
      deeperThan_append fun l hl => .inl (one_lt_depth_of_mem_indent hlevel hl)]
    rfl
  refine routine?_of_find? (hbody ▸ Method.find?_append hfind _ _) (by decide +kernel) ?_
  rw [indent_append, indent_append, List.append_assoc, dropDescription_decode]
  -- Behind the description the lines are the same in all modules, so the reader can run on them.
  decide +kernel

/-- With a table of regions the class has the method that writes a locale. -/
theorem routine?_encode (h : m.regions.isSome) :
    m.langClass.routine? false "encode" = some ⟨[], encodeBlock⟩ := by
  have hbody : m.langClass.body = indent (fieldLines ++ (checkLines ++
      (m.constructors.flatMap Constructor.lines ++ listingLines))) ++ ⟨1, ""⟩ ::
        ⟨1, "def encode(self) -> str:"⟩ :: ((indent encodeLines).tail ++
          (indent (blank ++ showLines ++ blank) ++ (indent (decodeLines m.unit) ++ blank 2))) := by
    simp only [langClass, bodyLines, if_pos h, codecLines_eq, indent_append, List.append_assoc]
    rfl
  have hinside : ∀ l ∈ (indent encodeLines).tail ++ (indent (blank ++ showLines ++ blank) ++
      (indent (decodeLines m.unit) ++ blank 2)), ¬ Defines "encode" l := by
    simp only [List.forall_mem_append]
    exact ⟨by decide +kernel, by decide +kernel, not_defines_decodeLines (by decide) m.unit,
      by decide⟩
  have hfind : Method.find? "encode" false (⟨1, "def encode(self) -> str:"⟩ :: _) = _ :=
    Method.find?_cons _ "encode(self) -> str:" rfl (by decide +kernel) hinside
  have hdeeper : deeperThan 1 ((indent encodeLines).tail ++ (indent (blank ++ showLines ++ blank) ++
      (indent (decodeLines m.unit) ++ blank 2))) = (indent encodeLines).tail ++ indent blank := rfl
  refine routine?_of_find? (hbody ▸ Method.find?_append hfind _ _) (by decide +kernel) ?_
  rw [hdeeper]
  decide +kernel

/-- The characters of a name at the start of a text stand before the first other character. -/
private theorem mem_of_mem_spanName {name rest : List Char} {c d : Char} (hd : isNameChar d = false)
    (h : c ∈ (spanName (name ++ d :: rest)).1.toList) : c ∈ name := by
  rw [spanName, String.toList_ofList] at h
  induction name with
  | nil => simp [hd] at h
  | cons e name ih =>
      rw [List.cons_append, List.takeWhile_cons] at h
      split at h
      · exact List.mem_cons.mpr ((List.mem_cons.mp h).imp_right ih)
      · simp at h

/-- A constructor without a low line in its name is not the check of a new locale. -/
theorem not_defines_constructor {c : Constructor} (h : '_' ∉ c.name.toList) :
    ∀ l ∈ indent c.lines, ¬ Defines "__post_init__" l := by
  have hdef : ¬ Defines "__post_init__"
      ⟨1, "def " ++ (c.name ++ "(cls, region: str = \"\") -> Self:")⟩ := by
    intro hdefines
    rw [Defines, signature?, if_pos rfl, String.toList_append, isPrefixOf?_append, Option.map_some,
      Option.some.injEq, String.toList_append] at hdefines
    have hmem : '_' ∈ (spanName (c.name.toList ++
        "(cls, region: str = \"\") -> Self:".toList)).1.toList := by
      rw [hdefines]
      decide
    exact h (mem_of_mem_spanName (by decide) hmem)
  rw [c.indent_lines]
  simp only [List.forall_mem_cons]
  exact ⟨nofun, nofun, hdef, nofun, nofun⟩

/-- The lines of the class behind the check of a new locale. -/
def behindCheck (m : Module) : List Line :=
  indent (m.constructors.flatMap Constructor.lines) ++ (indent listingLines ++
    (indent (if m.regions.isSome then codecLines m.unit else []) ++ blank 2))

theorem not_defines_behindCheck (h : ∀ c ∈ m.constructors, '_' ∉ c.name.toList) :
    ∀ l ∈ m.behindCheck, ¬ Defines "__post_init__" l := by
  have hconstructors : ∀ l ∈ indent (m.constructors.flatMap Constructor.lines),
      ¬ Defines "__post_init__" l := by
    intro l hl
    rw [indent, List.map_flatMap] at hl
    obtain ⟨c, hc, hl⟩ := List.mem_flatMap.mp hl
    exact not_defines_constructor (h c hc) l hl
  have hcodec : ∀ l ∈ indent (if m.regions.isSome then codecLines m.unit else []),
      ¬ Defines "__post_init__" l := by
    split
    · simp only [codecLines_eq, indent_append, List.forall_mem_append]
      exact ⟨by decide, by decide +kernel, by decide, by decide +kernel, by decide,
        not_defines_decodeLines (by decide) m.unit⟩
    · exact fun _ hl => absurd hl List.not_mem_nil
  simp only [behindCheck, List.forall_mem_append]
  exact ⟨hconstructors, by decide +kernel, hcodec, by decide⟩

/-- The class has the check of a new locale, if no constructor can be taken for it. -/
theorem routine?_check (h : ∀ c ∈ m.constructors, '_' ∉ c.name.toList) :
    m.langClass.routine? false "__post_init__" = some ⟨[], checkBlock⟩ := by
  have hbody : m.langClass.body = indent fieldLines ++ ⟨1, ""⟩ ::
      ⟨1, "def __post_init__(self) -> None:"⟩ ::
        ((indent checkLines).drop 2 ++ m.behindCheck) := by
    simp only [langClass, bodyLines, behindCheck, indent_append, List.append_assoc]
    rfl
  have hinside : ∀ l ∈ (indent checkLines).drop 2 ++ m.behindCheck,
      ¬ Defines "__post_init__" l := by
    rw [List.forall_mem_append]
    exact ⟨by decide +kernel, not_defines_behindCheck h⟩
  have hfind : Method.find? "__post_init__" false
      (⟨1, "def __post_init__(self) -> None:"⟩ :: _) = _ :=
    Method.find?_cons _ "__post_init__(self) -> None:" rfl (by decide +kernel) hinside
  have hblank : deeperThan 1 m.behindCheck = indent blank := by
    rw [behindCheck]
    cases m.constructors <;> rfl
  have hdeeper : deeperThan 1 ((indent checkLines).drop 2 ++ m.behindCheck) =
      (indent checkLines).drop 2 ++ indent blank := by
    rw [deeperThan_append (by decide), hblank]
  refine routine?_of_find? (hbody ▸ Method.find?_append hfind _ _) (by decide +kernel) ?_
  rw [hdeeper]
  decide +kernel

end Methods

end Module

end Class

end Phrasebook.Generated
