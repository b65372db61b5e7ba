import Phrasebook.Proofs.Generated.Codec
import Phrasebook.Proofs.Generated.Constructors
import Phrasebook.Proofs.Locale.Grammar
import Phrasebook.Proofs.Locale.Set

/-!
# The members of the class of locales

The lines of the class define its fields and methods, the constructors among them, and no name
twice. So a constructor is the method that is written for it, and a call of it makes a locale of its
language. All this holds with and without the methods that read and write locales.
-/

namespace Phrasebook

/-- A catalog some of whose languages share a name for a constructor or cannot have one. -/
def Sections.crowded : Sections := [
  ⟨"word", [⟨"a_b", "w", 2, "words.ini"⟩, ⟨"none", "w", 3, "words.ini"⟩,
    ⟨"a", "w", 4, "words.ini"⟩, ⟨"A__b", "w", 5, "words.ini"⟩, ⟨"1x", "w", 6, "words.ini"⟩,
    ⟨"_a", "w", 7, "words.ini"⟩]⟩]

namespace Generated

open Code Text Phrasebook.Generated.Module

section Reading

/-- The name of the method or the field that a line of a class defines. -/
def definedName? (l : Line) : Option String :=
  ((signature? l).map fun signature => (spanName signature).1).or
    ((fieldOf? l).map Parameter.name)

/-- The names that the lines of a class define. Each line of the class itself has to define one,
unless it is empty or tells that the next method is one of the class. -/
def definedNames? : List Line → Option (List String)
  | [] => some []
  | l :: rest =>
    if l.depth = 1 ∧ l.text ≠ "" ∧ l.text ≠ "@classmethod" then do
      return (← definedName? l) :: (← definedNames? rest)
    else definedNames? rest

private theorem definedNames?_append {lines lines' : List Line} {names names' : List String}
    (h : definedNames? lines = some names) (h' : definedNames? lines' = some names') :
    definedNames? (lines ++ lines') = some (names ++ names') := by
  induction lines generalizing names with
  | nil =>
      obtain rfl := Option.some.inj h
      exact h'
  | cons l lines ih =>
      rw [definedNames?] at h
      rw [List.cons_append, definedNames?]
      split
      · rename_i hl
        rw [if_pos hl] at h
        obtain ⟨name, hname, h⟩ := Option.bind_eq_some_iff.mp h
        obtain ⟨others, hothers, h⟩ := Option.bind_eq_some_iff.mp h
        obtain rfl := Option.some.inj h
        rw [hname, ih hothers]
        rfl
      · rename_i hl
        rw [if_neg hl] at h
        exact ih h

/-- A line that opens a definition is one of the class itself. -/
theorem isOwn_of_defines {name : String} {l : Line} (h : Defines name l) :
    l.depth = 1 ∧ l.text ≠ "" ∧ l.text ≠ "@classmethod" := by
  obtain ⟨signature, hsignature, -⟩ := Option.map_eq_some_iff.mp h
  rw [signature?] at hsignature
  split at hsignature
  · rename_i hdepth
    refine ⟨hdepth, fun htext => ?_, fun htext => ?_⟩
    all_goals
      rw [htext] at hsignature
      cases hsignature
  · cases hsignature

/-- A name that is not among the defined ones is not defined by any line. -/
theorem not_defines_of_definedNames? {lines : List Line} {names : List String}
    (h : definedNames? lines = some names) {name : String} (hname : name ∉ names) :
    ∀ l ∈ lines, ¬ Defines name l := by
  induction lines generalizing names with
  | nil => simp
  | cons l lines ih =>
      rw [definedNames?] at h
      rw [List.forall_mem_cons]
      by_cases hl : l.depth = 1 ∧ l.text ≠ "" ∧ l.text ≠ "@classmethod"
      · rw [if_pos hl] at h
        obtain ⟨first, hfirst, h⟩ := Option.bind_eq_some_iff.mp h
        obtain ⟨others, hothers, h⟩ := Option.bind_eq_some_iff.mp h
        obtain rfl := Option.some.inj h
        rw [List.mem_cons, not_or] at hname
        refine ⟨fun hdefines => hname.1 ?_, ih hothers hname.2⟩
        rw [definedName?, hdefines] at hfirst
        exact Option.some.inj hfirst
      · rw [if_neg hl] at h
        exact ⟨fun hdefines => hl (isOwn_of_defines hdefines), ih h hname⟩

end Reading

section Names

/-- A name before another character is read to its end. -/
private theorem spanName_append {name rest : List Char} {d : Char}
    (h : ∀ c ∈ name, isNameChar c = true) (hd : isNameChar d = false) :
    spanName (name ++ d :: rest) = (String.ofList name, d :: rest) := by
  rw [spanName, List.takeWhile_append_of_pos h, List.dropWhile_append_of_pos h,
    List.takeWhile_cons_of_neg (by simp [hd]), List.dropWhile_cons_of_neg (by simp [hd]),
    List.append_nil]

/-- What stands behind the name of a constructor. -/
def constructorSignature : String := "(cls, region: str = \"\") -> Self:"

theorem Constructor.spanName_signature {c : Constructor} (h : c.Distinct) :
    spanName (c.name ++ constructorSignature).toList = (c.name, constructorSignature.toList) := by
  have hname : ∀ d ∈ c.name.toList, isNameChar d = true := by
    intro d hd
    rw [isNameChar, h.plain d hd, Bool.true_or]
  have hsignature : constructorSignature.toList =
      '(' :: "cls, region: str = \"\") -> Self:".toList := rfl
  rw [String.toList_append, hsignature, spanName_append hname (by decide), String.ofList_toList]

theorem Constructor.defines_name {c : Constructor} (h : c.Distinct) :
    Defines c.name ⟨1, "def " ++ (c.name ++ constructorSignature)⟩ := by
  rw [Defines, signature?, if_pos rfl, String.toList_append, isPrefixOf?_append, Option.map_some,
    spanName_signature h]

theorem Constructor.definedNames?_lines {c : Constructor} (h : c.Distinct) :
    definedNames? (indent c.lines) = some [c.name] := by
  have hdefines := defines_name h
  have hname : definedName? ⟨1, "def " ++ (c.name ++ constructorSignature)⟩ = some c.name := by
    rw [definedName?, hdefines]
    rfl
  have hbody (text : String) : definedNames? [⟨2, text⟩] = some [] := rfl
  rw [c.indent_lines, definedNames?, if_neg (by decide), definedNames?, if_neg (by decide),
    ← constructorSignature, definedNames?, if_pos (isOwn_of_defines hdefines), hname, hbody]
  rfl

/-- The lines of constructors define their names. -/
theorem definedNames?_constructors {cs : List Constructor} (h : ∀ c ∈ cs, c.Distinct) :
    definedNames? (indent (cs.flatMap Constructor.lines)) = some (cs.map Constructor.name) := by
  induction cs with
  | nil => rfl
  | cons c cs ih =>
      obtain ⟨hc, hcs⟩ := List.forall_mem_cons.mp h
      rw [List.flatMap_cons, indent_append, List.map_cons]
      exact definedNames?_append (c.definedNames?_lines hc) (ih hcs)

namespace Module

/-- The lines of the class behind the constructors. -/
def closingLines (m : Module) : List Line :=
  indent (listingLines ++ if m.regions.isSome then codecLines m.unit else []) ++ blank 2

/-- The names of the methods behind the constructors. -/
def closingNames (m : Module) : List String :=
  ["all_languages", "default"] ++ if m.regions.isSome then ["encode", "__str__", "decode"] else []

theorem definedNames?_closingLines (m : Module) :
    definedNames? m.closingLines = some m.closingNames := by
  rw [closingLines, closingNames]
  split
  · rfl
  · rfl

/-- The names of the class, in the order of its lines. -/
def memberNames (m : Module) : List String :=
  ["language", "region", "__post_init__"] ++ (m.constructors.map Constructor.name ++ m.closingNames)

theorem body_eq (m : Module) : indent m.bodyLines ++ blank 2 =
    indent (fieldLines ++ checkLines) ++
      (indent (m.constructors.flatMap Constructor.lines) ++ m.closingLines) := by
  simp only [bodyLines, closingLines, indent_append, List.append_assoc]

variable {m : Module}

/-- The lines of the class define its names. -/
theorem definedNames?_body (h : ∀ c ∈ m.constructors, c.Distinct) :
    definedNames? (indent m.bodyLines ++ blank 2) = some m.memberNames := by
  have hopening : definedNames? (indent (fieldLines ++ checkLines)) =
      some ["language", "region", "__post_init__"] := by decide +kernel
  rw [body_eq]
  exact definedNames?_append hopening
    (definedNames?_append (definedNames?_constructors h) m.definedNames?_closingLines)

private theorem closingNames_subset (m : Module) : m.closingNames ⊆ fixedNames := by
  rw [closingNames]
  split <;> decide

/-- The class defines no name twice. -/
theorem nodup_memberNames (h : ∀ c ∈ m.constructors, c.Distinct)
    (hnodup : (m.constructors.map Constructor.name).Nodup) : m.memberNames.Nodup := by
  have hother : ∀ name ∈ m.constructors.map Constructor.name, name ∉ fixedNames := by
    rintro _ hname
    obtain ⟨c, hc, rfl⟩ := List.mem_map.mp hname
    exact (h c hc).other
  have hclosing : m.closingNames.Nodup ∧
      ["language", "region", "__post_init__"].Disjoint m.closingNames := by
    rw [closingNames]
    split <;> simp
  refine List.Nodup.append (by decide) (hnodup.append hclosing.1 ?_) ?_
  · intro name hname hmem
    exact hother name hname (m.closingNames_subset hmem)
  · refine List.disjoint_append_right.mpr ⟨?_, hclosing.2⟩
    intro name hmem hname
    have hfixed : ["language", "region", "__post_init__"] ⊆ fixedNames := by decide
    exact hother name hname (hfixed hmem)

end Module

end Names

section Literals

/-- A text without the first character of a separator belongs to the first piece. -/
private theorem pieces_append {c : Char} {separator text : List Char} (h : c ∉ text)
    (rest : List Char) :
    pieces (c :: separator) 0 (text ++ rest) =
      (text ++ (pieces (c :: separator) 0 rest).1, (pieces (c :: separator) 0 rest).2) := by
  induction text with
  | nil => rfl
  | cons d text ih =>
      rw [List.mem_cons, not_or] at h
      have hprefix : (c :: separator).isPrefixOf (d :: (text ++ rest)) = false := by
        rw [List.isPrefixOf, beq_false_of_ne h.1, Bool.false_and]
      rw [List.cons_append, pieces, hprefix, if_neg (by decide), ih h.2]
      rfl

variable {language : String} (h : ∀ c ∈ language.toList, Locale.isLanguageChar c = true)

include h

theorem not_mem_language {c : Char} (hc : Locale.isLanguageChar c = false) :
    c ∉ language.toList := by
  intro hmem
  rw [h c hmem] at hc
  cases hc

/-- A language needs no escapes. -/
theorem toList_literal_language :
    (literal language).toList = '"' :: (language.toList ++ ['"']) := by
  have hchar : ∀ c ∈ language.toList, escapeChar '"' c = [c] := by
    intro c hc
    have hlanguage := h c hc
    have hbasic := Locale.isBasic_of_isLanguageChar hlanguage
    revert hlanguage
    exact IsBasic.of_forall
      (p := fun c => Locale.isLanguageChar c = true → escapeChar '"' c = [c]) (by decide +kernel)
      hbasic
  have hescape : escape '"' language.toList = language.toList := by
    rw [escape, List.flatMap_congr hchar, List.flatMap_singleton']
  have hmark : literalMarkFor language.toList = '"' :=
    if_pos ⟨not_mem_language h (by decide), not_mem_language h (by decide)⟩
  rw [literal, String.toList_ofList, hmark, enclose, hescape]

theorem not_mem_literal_language {c : Char} (hc : Locale.isLanguageChar c = false)
    (hquote : c ≠ '"') : c ∉ (literal language).toList := by
  rw [toList_literal_language h]
  simp [hquote, not_mem_language h hc]

/-- The literal of a language is read as an expression. -/
theorem read?_literal_language :
    Expression.read? (literal language).toList = some (.literal language) := by
  have hpieces : pieces " + ".toList 0 ((literal language).toList ++ []) =
      ((literal language).toList ++ [], []) :=
    pieces_append (not_mem_literal_language h (by decide) (by decide)) []
  have hlast (ending : List Char) {c : Char} {rest : List Char} (hc : ending.reverse = c :: rest)
      (hne : c ≠ '"') : ending.isSuffixOf? (literal language).toList = none := by
    rw [List.isSuffixOf?, hc, toList_literal_language h, ← List.cons_append, List.reverse_append,
      List.reverse_singleton, List.singleton_append, List.isPrefixOf?,
      if_neg (by simpa using hne)]
    rfl
  rw [List.append_nil] at hpieces
  rw [Expression.read?, readPieces?, hpieces]
  have hlower := hlast ".lower()".toList rfl (by decide)
  have hupper := hlast ".upper()".toList rfl (by decide)
  have hoperand : Expression.readOperand? (literal language).toList = some (.literal language) := by
    simp only [Expression.readOperand?, hlower, hupper, Expression.readAtom?,
      readLiteral?_literal_alone, String.ofList_toList]
  simp only [hoperand]
  rfl

/-- The statement of a constructor is read. -/
theorem read?_constructor_statement :
    Statement.read? ("return cls(" ++ literal language ++ ", region)").toList =
      some (.make [.literal language, .named "region"]) := by
  have hpieces : pieces ", ".toList 0 ((literal language).toList ++ ", region".toList) =
      ((literal language).toList ++ [], ["region".toList]) :=
    pieces_append (not_mem_literal_language h (by decide) (by decide)) ", region".toList
  have htext : ("return cls(" ++ literal language ++ ", region)").toList = "return ".toList ++
      ("cls(".toList ++ (((literal language).toList ++ ", region".toList) ++ ")".toList)) := by
    simp
  have hregion : Expression.read? "region".toList = some (.named "region") := by decide +kernel
  rw [List.append_nil] at hpieces
  rw [htext, Statement.read?, isPrefixOf?_append]
  simp only [Statement.readReturn?, between?_append, readPieces?, hpieces,
    read?_literal_language h, Option.bind_eq_bind, Option.bind_some, List.mapM_cons, hregion]
  rfl

omit h in
/-- A method of one statement is read as a block of it. -/
theorem Block.read?_single {text : String} {rest : List Char} {s : Statement}
    (hhead : text.toList = 'r' :: rest) (hread : Statement.read? text.toList = some s) :
    Block.read? 2 (dropDescription [⟨2, text⟩, ⟨1, ""⟩]) = some (.step s .done) := by
  have hdescription : dropDescription [⟨2, text⟩, ⟨1, ""⟩] = [⟨2, text⟩, ⟨1, ""⟩] := by
    rw [dropDescription, hhead]
    rfl
  have hfull : text ≠ "" := by
    rintro rfl
    cases hhead
  have hcondition : between? "if ".toList ":".toList text.toList = none := by
    rw [hhead]
    rfl
  have hblocks : readBlocks? [⟨2, text⟩] = some [(2, .step s .done)] := by
    simp only [readBlocks?, hcondition, hread]
    rfl
  rw [hdescription, Block.read?, List.filter_cons_of_pos (by simpa using hfull),
    List.filter_cons_of_neg (by simp), List.filter_nil, hblocks]
  rfl

end Literals

section Making

namespace Module

variable {m : Module}

/-- What a constructor does. -/
def constructorBlock (language : String) : Block :=
  .step (.make [.literal language, .named "region"]) .done

theorem routine?_constructor (h : ∀ c ∈ m.constructors, c.Distinct)
    (hnodup : (m.constructors.map Constructor.name).Nodup) {c : Constructor}
    (hc : c ∈ m.constructors)
    (hlanguage : ∀ d ∈ c.language.toList, Locale.isLanguageChar d = true) :
    m.langClass.routine? true c.name =
      some ⟨[⟨"region", some ""⟩], constructorBlock c.language⟩ := by
  obtain ⟨before, after, hsplit⟩ := List.append_of_mem hc
  have hdistinct := h c hc
  let statement : Line := ⟨2, "return cls(" ++ literal c.language ++ ", region)"⟩
  let behind : List Line :=
    statement :: (indent (after.flatMap Constructor.lines) ++ m.closingLines)
  have hbody : m.langClass.body =
      indent (fieldLines ++ checkLines ++ before.flatMap Constructor.lines) ++ ⟨1, ""⟩ ::
        ⟨1, "@classmethod"⟩ :: ⟨1, "def " ++ (c.name ++ constructorSignature)⟩ :: behind := by
    rw [langClass, body_eq, hsplit, List.flatMap_append, List.flatMap_cons]
    simp only [indent_append, c.indent_lines, List.append_assoc, List.cons_append, List.nil_append]
    rfl
  have hbehind : definedNames? behind = some (after.map Constructor.name ++ m.closingNames) := by
    have hafter : ∀ c ∈ after, c.Distinct := fun c hc => h c (by rw [hsplit]; simp [hc])
    exact definedNames?_append (definedNames?_constructors hafter) m.definedNames?_closingLines
  -- No constructor behind this one and no later method has the same name.
  have hother : c.name ∉ after.map Constructor.name ++ m.closingNames := by
    rw [hsplit, List.map_append, List.map_cons] at hnodup
    rw [List.mem_append, not_or]
    exact ⟨(List.nodup_cons.mp hnodup.of_append_right).1,
      fun hclosing => hdistinct.other (m.closingNames_subset hclosing)⟩
  have hfind : Method.find? c.name false (⟨1, "@classmethod"⟩ ::
      ⟨1, "def " ++ (c.name ++ constructorSignature)⟩ :: behind) =
      some ⟨true, (c.name ++ constructorSignature).toList, [statement, ⟨1, ""⟩]⟩ := by
    have hname : (spanName (c.name ++ constructorSignature).toList).1 = c.name := by
      rw [c.spanName_signature hdistinct]
    have hdeeper : deeperThan 1 behind = [statement, ⟨1, ""⟩] := by
      cases after <;> rfl
    rw [Method.find?, decide_eq_true rfl, Method.find?_cons _ (c.name ++ constructorSignature) rfl
      hname (not_defines_of_definedNames? hbehind hother), hdeeper]
    rfl
  have hparameters : readSignature? true (c.name ++ constructorSignature).toList =
      some [⟨"region", some ""⟩] := by
    rw [readSignature?, c.spanName_signature hdistinct]
    rfl
  have hhead : statement.text.toList =
      'r' :: ("eturn cls(".toList ++ (literal c.language).toList ++ ", region)".toList) := by
    rw [String.toList_append, String.toList_append]
    rfl
  exact routine?_of_find? (hbody ▸ Method.find?_append hfind _ _) hparameters
    (Block.read?_single hhead (read?_constructor_statement hlanguage))

/-- A call of a constructor makes a locale of its language. -/
theorem call_constructor (h : ∀ c ∈ m.constructors, c.Distinct)
    (hnodup : (m.constructors.map Constructor.name).Nodup) {c : Constructor}
    (hc : c ∈ m.constructors) (hmem : c.language ∈ m.languages)
    (hlanguage : ∀ d ∈ c.language.toList, Locale.isLanguageChar d = true)
    (region : Option String) :
    m.langClass.call none c.name region.toList =
      some (.made [("language", c.language), ("region", lower (region.getD ""))]) := by
  have hnames : bindArguments [⟨"region", some ""⟩] region.toList =
      some [("region", region.getD "")] := by
    cases region <;> rfl
  have hconstructors : ∀ c ∈ m.constructors, '_' ∉ c.name.toList :=
    fun c hc => (h c hc).lowLine_not_mem
  have hrun : (constructorBlock c.language).run m.langClass.tables
      ⟨[], [("region", region.getD "")]⟩ = some (.made [c.language, region.getD ""]) :=
    Block.run_single _
  have hlang : m.lang c.language (region.getD "") = .ok ⟨c.language, lower (region.getD "")⟩ :=
    if_pos (List.contains_iff_mem.mpr hmem)
  rw [Class.call_eq none (routine?_constructor h hnodup hc hlanguage) hnames hrun]
  exact (construct_langClass hconstructors c.language (region.getD "")).trans (by rw [hlang]; rfl)

/-- The module makes what its constructors are written to make. -/
theorem construct_constructor (hnodup : (m.constructors.map Constructor.name).Nodup)
    {c : Constructor} (hc : c ∈ m.constructors) (hmem : c.language ∈ m.languages)
    (region : String) : m.construct c.name region = .ok ⟨c.language, lower region⟩ := by
  have hfind : m.constructors.find? (·.name == c.name) = some c := by
    cases hfound : m.constructors.find? (·.name == c.name) with
    | none => exact absurd (beq_self_eq_true c.name) (List.find?_eq_none.mp hfound c hc)
    | some c' =>
        have hname : c'.name = c.name := by simpa using List.find?_some hfound
        rw [List.inj_on_of_nodup_map hnodup (List.mem_of_find?_eq_some hfound) hc hname]
  rw [construct, hfind]
  exact if_pos (List.contains_iff_mem.mpr hmem)

end Module

end Making

section Catalogs

variable {sections : Sections} {config : Config} {catalog : Catalog}

theorem isLanguageChar_of_mem_languages (h : Catalog.compile sections config = .ok catalog)
    {language : String} (hlanguage : language ∈ catalog.locales.languages) :
    ∀ c ∈ language.toList, Locale.isLanguageChar c = true := by
  obtain ⟨l, hl, rfl⟩ := LocaleSet.mem_languages.mp hlanguage
  obtain ⟨tag, hspells⟩ := Catalog.exists_spells_of_mem_locales h hl
  exact hspells.isLanguageChar_language

/-- A compiled catalog has one constructor for each name that a language gives to one, and this
constructor is for the least such language. Its name is none of the others in the class, and what is
written for it makes locales of its language. -/
theorem written_constructors_make_languages
    (hcompile : Catalog.compile sections config = .ok catalog) :
    ((constructorsFor [] catalog.locales.languages).map Constructor.name).Nodup ∧
    (∀ c, c ∈ constructorsFor [] catalog.locales.languages ↔ Key.isName c.name = true ∧
      IsLeast {language | language ∈ catalog.locales.languages ∧ Key.camel language = c.name}
        c.language) ∧
    (∀ c ∈ constructorsFor [] catalog.locales.languages,
      c.name ∉ ["language", "region", "all_languages", "default", "encode", "decode"] ∧
        ¬ "__".toList <+: c.name.toList) ∧
    ∀ settings data module, Module.ofCatalog catalog settings data = .ok module →
      module.constructors = constructorsFor [] catalog.locales.languages ∧
      ∃ lang, Class.read? module.lines = some lang ∧
        definedNames? lang.body = some module.memberNames ∧ module.memberNames.Nodup ∧
        ∀ c ∈ module.constructors, ∀ region : Option String,
          module.construct c.name (region.getD "") = .ok ⟨c.language, lower (region.getD "")⟩ ∧
          lang.call none c.name region.toList =
            some (.made [("language", c.language), ("region", lower (region.getD ""))]) := by
  have hsorted : catalog.locales.languages.Pairwise (· < ·) := Text.pairwise_sortedDistinct _
  have hnodup : ((constructorsFor [] catalog.locales.languages).map Constructor.name).Nodup :=
    nodup_constructorsFor List.nodup_nil
  have hdistinct : ∀ c ∈ constructorsFor [] catalog.locales.languages, c.Distinct := fun c =>
    distinct_of_mem_constructorsFor fun language hlanguage =>
      (Catalog.isSmall_of_mem_languages hcompile hlanguage).isBasic
  refine ⟨hnodup, fun c => mem_constructorsFor_iff_isLeast hsorted, fun c hc => ?_, ?_⟩
  · refine ⟨fun hmem => (hdistinct c hc).other ?_, fun hdunder => ?_⟩
    · exact (by decide : ["language", "region", "all_languages", "default", "encode", "decode"] ⊆
        fixedNames) hmem
    · exact (hdistinct c hc).lowLine_not_mem (hdunder.subset (by decide))
  · intro settings data module hmodule
    obtain ⟨names, -, default, -, rfl⟩ := Module.ofCatalog_eq_ok_iff.mp hmodule
    refine ⟨rfl, _, read?_lines _, definedNames?_body hdistinct,
      nodup_memberNames hdistinct hnodup, fun c hc region => ?_⟩
    have hlanguage := (camel_language_of_mem_constructorsFor hc).1
    exact ⟨construct_constructor hnodup hc hlanguage (region.getD ""),
      call_constructor hdistinct hnodup hc hlanguage
        (isLanguageChar_of_mem_languages hcompile hlanguage) region⟩

private theorem exists_compile_crowded :
    ∃ catalog, Catalog.compile Sections.crowded {} = .ok catalog ∧
    constructorsFor [] catalog.locales.languages = [⟨"A", "_a"⟩, ⟨"AB", "a__b"⟩] := by
  have hok : (Catalog.compile Sections.crowded {}).toOption.any (fun catalog =>
      constructorsFor [] catalog.locales.languages = [⟨"A", "_a"⟩, ⟨"AB", "a__b"⟩]) := by
    decide +kernel
  cases hcompile : Catalog.compile Sections.crowded {} with
  | error e =>
      rw [hcompile] at hok
      cases hok
  | ok catalog =>
      rw [hcompile] at hok
      exact ⟨catalog, rfl, of_decide_eq_true hok⟩

/-- Six languages have two constructors, which make the least languages of their names. -/
theorem exists_written_constructors_crowded : ∃ catalog module lang,
    Catalog.compile Sections.crowded {} = .ok catalog ∧
      Module.ofCatalog catalog {} .absent = .ok module ∧
      Class.read? module.lines = some lang ∧
      definedNames? lang.body = some ["language", "region", "__post_init__", "A", "AB",
        "all_languages", "default"] ∧
      lang.call none "A" ["GB"] = some (.made [("language", "_a"), ("region", "gb")]) ∧
      lang.call none "AB" [] = some (.made [("language", "a__b"), ("region", "")]) := by
  obtain ⟨catalog, hcompile, hconstructors⟩ := exists_compile_crowded
  obtain ⟨default, -, hmodule⟩ :=
    Module.exists_ofCatalog hcompile (rfl : ({} : Config).describeLocales = false) .absent
  obtain ⟨-, -, -, hwritten⟩ := written_constructors_make_languages hcompile
  obtain ⟨hmade, lang, hread, hnames, -, hcall⟩ := hwritten {} .absent _ hmodule
  rw [hconstructors] at hmade
  rw [hmade] at hcall
  refine ⟨catalog, _, lang, hcompile, hmodule, hread, ?_, ?_, ?_⟩
  · rw [hnames, Module.memberNames, hmade]
    rfl
  · have hupper : lower "GB" = "gb" := by decide +kernel
    rw [← hupper]
    exact (hcall ⟨"A", "_a"⟩ (by decide) (some "GB")).2
  · exact (hcall ⟨"AB", "a__b"⟩ (by decide) none).2

end Catalogs

end Generated

end Phrasebook
