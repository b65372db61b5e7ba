import Phrasebook.Proofs.Code.Line
import Phrasebook.Proofs.Compilation.Acceptance
import Phrasebook.Proofs.Generated.Constructors
import Phrasebook.Proofs.Generated.Refinement

/-!
# Modules are written in neat lines

Whatever a catalog says, its module is written in the lines that the printer intends. Keys and
wordings reach the module as literals, which stay on one line; identifiers and the names of
constructors hold no character that could end a line; the indentation consists of spaces and
tabulators. Only a description with a line break spreads over several lines.
-/

namespace Phrasebook

/-- A section whose key and wording hold quotation marks, a backslash and characters that may end a
line. -/
def Sections.hostile : Sections := [
  ⟨"menu\u2028open", [⟨"en", "\"\"\"\u0085\\' %s\x0b\nimport os\r", 1, "menu.ini"⟩]⟩]

namespace Generated

open Code Text

section Functions

theorem unbroken_argumentName (position : Nat) : Unbroken (argumentName position) := by
  have hprefix : Unbroken "arg" := .ofList (by decide)
  intro c hc
  rw [toList_argumentName] at hc
  rcases List.mem_append.mp hc with hc | hc
  · exact hprefix c hc
  · exact isLineBreak_of_isDigit (Nat.isDigit_of_mem_toDigits (by decide) (by decide) hc)

theorem Argument.unbroken_expression (a : Argument) : Unbroken a.expression := by
  have hname := unbroken_argumentName a.position
  rw [Argument.expression]
  split
  · exact hname.enclose (by decide) (by decide)
  · exact hname

/-- The statement of a body is a neat line, whatever text it returns. -/
theorem Body.neat_statement (b : Body) : (line b.statement).Neat := by
  cases b with
  | plain text =>
      exact neat_line (Unbroken.append (.ofList (by decide)) (unbroken_literal text))
        ((closed_literal text).append _)
  | filled text arguments =>
      have harguments : Unbroken (", ".intercalate (arguments.map Argument.expression)) := by
        refine unbroken_intercalate (.ofList (by decide)) fun item hitem => ?_
        obtain ⟨a, -, rfl⟩ := List.mem_map.mp hitem
        exact a.unbroken_expression
      have hcall : Unbroken ("return " ++ literal text ++ ".format(") :=
        (unbroken_literal text).enclose (by decide) (by decide)
      exact neat_append_ofList (hcall.append harguments) (by decide) (by decide)

theorem Case.neat_lines (c : Case) : Neat c.lines := by
  have hlanguage : Unbroken ("case Lang(" ++ literal c.language ++ ", ") :=
    (unbroken_literal c.language).enclose (by decide) (by decide)
  have hpattern {region : String} (hregion : Unbroken region) :
      (line ("case Lang(" ++ literal c.language ++ ", " ++ region ++ "):")).Neat :=
    neat_append_ofList (hlanguage.append hregion) (by decide) (by decide)
  rw [Case.lines, neat_cons, neat_indent, neat_cons]
  refine ⟨hpattern ?_, c.body.neat_statement, neat_nil⟩
  cases c.region with
  | none => exact .ofList (by decide)
  | some region => exact unbroken_literal region

theorem Function.unbroken_parameters (f : Function) : Unbroken f.parameters := by
  refine unbroken_intercalate (.ofList (by decide)) fun item hitem => ?_
  rcases List.mem_append.mp hitem with hitem | hitem
  · rcases List.mem_cons.mp hitem with rfl | hitem
    · exact .ofList (by decide)
    · obtain ⟨position, -, rfl⟩ := List.mem_map.mp hitem
      exact (unbroken_argumentName position).append (.ofList (by decide))
  · rw [List.mem_singleton.mp hitem]
    exact .ofList (by decide)

/-- A function is written in neat lines if its name stays on one. -/
theorem Function.neat_lines {f : Function} (h : Unbroken f.identifier) : Neat f.lines := by
  have hname : Unbroken ("def " ++ f.identifier ++ "(") :=
    h.enclose (by decide) (by decide)
  have hsignature : (line ("def " ++ f.identifier ++ "(" ++ f.parameters ++ ") -> str:")).Neat :=
    neat_append_ofList (hname.append f.unbroken_parameters) (by decide) (by decide)
  have hdescription : (line (literal ("Translation of [" ++ f.key ++ "]."))).Neat :=
    neat_line (unbroken_literal _) (closed_literal _)
  simp only [Function.lines, neat_cons, neat_indent, neat_append]
  exact ⟨hsignature, ⟨hdescription, neat_ofList (by decide) (by decide), neat_nil⟩,
    neat_flatMap fun c _ => c.neat_lines, neat_ofList (by decide) (by decide),
    f.default.neat_statement, neat_nil⟩

end Functions

section Locales

private theorem unbroken_tuple {items : List String} (h : ∀ item ∈ items, Unbroken item) :
    Unbroken (tuple items) := by
  rw [tuple.eq_def]
  split
  · exact .ofList (by decide)
  · exact Unbroken.enclose (h _ (by simp)) (by decide) (by decide)
  · have hseparator : Unbroken ", " := .ofList (by decide)
    exact (unbroken_intercalate hseparator h).enclose (by decide) (by decide)

private theorem closed_tuple (items : List String) : Closed (tuple items) := by
  rw [tuple.eq_def]
  split
  · exact .ofList (by decide)
  · exact Closed.append (.ofList (by decide)) _
  · exact Closed.append (.ofList (by decide)) _

theorem neat_table (name : String) (hname : Unbroken name) (items : List String) :
    (line (name ++ tuple (items.map literal))).Neat := by
  refine neat_line (hname.append (unbroken_tuple fun item hitem => ?_)) ((closed_tuple _).append _)
  obtain ⟨text, -, rfl⟩ := List.mem_map.mp hitem
  exact unbroken_literal text

theorem unbroken_localeExpression (l : Locale) : Unbroken (localeExpression l) :=
  (((unbroken_literal _).enclose (by decide) (by decide)).append
    (unbroken_literal _)).append (.ofList (by decide))

theorem Constructor.neat_lines {c : Constructor} (h : Unbroken c.name) : Neat c.lines := by
  have hsignature : (line ("def " ++ c.name ++ "(cls, region: str = \"\") -> Self:")).Neat :=
    neat_line (h.enclose (by decide) (by decide)) (Closed.append (.ofList (by decide)) _)
  have hreturn : (line ("return cls(" ++ literal c.language ++ ", region)")).Neat :=
    neat_line ((unbroken_literal _).enclose (by decide) (by decide))
      (Closed.append (.ofList (by decide)) _)
  simp only [Constructor.lines, neat_append, neat_cons, neat_indent]
  exact ⟨⟨neat_blank 1, neat_ofList (by decide) (by decide), hsignature, neat_nil⟩, hreturn,
    neat_nil⟩

theorem neat_tripleQuoted (text : String) (h : Unbroken text) :
    (line (tripleQuoted text)).Neat :=
  neat_line (h.enclose (by decide) (by decide)) (Closed.append (.ofList (by decide)) _)

theorem neat_decodeErrorStatement (part : String) (h : Unbroken part) :
    (line (decodeErrorStatement part)).Neat := by
  have hpart : Unbroken ("raise UnknownLocaleOnDecode(f\"Unknown " ++ part ++ " \x7b" ++ part) :=
    (h.enclose (by decide) (by decide)).append h
  exact neat_append_ofList hpart (by decide) (by decide)

/-- The methods that write and read locales as text are written in neat lines. -/
theorem neat_codecLines {unit : String} (hunit : Unbroken unit) : Neat (codecLines unit) := by
  have hraises : (line
      (unit ++ "UnknownLocaleOnDecode: If the language or region is unknown")).Neat :=
    neat_append_ofList hunit (by decide) (by decide)
  have hregion := neat_decodeErrorStatement "region" (.ofList (by decide))
  have hlanguage := neat_decodeErrorStatement "language" (.ofList (by decide))
  have hexample := neat_tripleQuoted "Canonical locale string: \"en\" or \"en_GB\"."
    (.ofList (by decide))
  simp only [codecLines, encodeLines, decodeLines, neat_append, neat_cons, neat_indent, neat_nil,
    neat_blank, hraises, hregion, hlanguage, hexample, true_and, and_true]
  and_intros <;> exact neat_ofList (by decide) (by decide)

end Locales

namespace Module

/-- A module whose parts stay on one line where they are not written as literals, and whose locales
have no names. -/
structure Tame (m : Module) : Prop where
  /-- The indentation stays on one line. -/
  unit : Unbroken m.unit
  /-- The description stays on one line. -/
  docstring : Unbroken m.docstring
  /-- The names of constructors stay on one line. -/
  constructors : ∀ c ∈ m.constructors, Unbroken c.name
  /-- The locales have no names. -/
  locales : ∀ l ∈ m.locales, l.2 = none
  /-- The names of functions stay on one line. -/
  functions : ∀ f ∈ m.functions, Unbroken f.identifier

variable {m : Module}

theorem neat_tableLines (m : Module) : Neat m.tableLines := by
  simp only [tableLines, neat_append, neat_cons]
  refine ⟨⟨neat_table _ (.ofList (by decide)) _, ?_⟩, neat_ofList (by decide) (by decide), neat_nil⟩
  cases m.regions with
  | none => exact neat_nil
  | some regions =>
      rw [Option.map_some, Option.toList_some, neat_cons]
      exact ⟨neat_table _ (.ofList (by decide)) regions, neat_nil⟩

theorem neat_classLines (h : m.Tame) : Neat m.classLines := by
  have hlanguage : (line (m.unit ++ "language: One of the catalog languages")).Neat :=
    neat_append_ofList h.unit (by decide) (by decide)
  have hregion : (line (m.unit ++ "region: Region (\"\" when absent), stored lowercase")).Neat :=
    neat_append_ofList h.unit (by decide) (by decide)
  have hconstructors : Neat (m.constructors.flatMap Constructor.lines) :=
    neat_flatMap fun c hc => Constructor.neat_lines (h.constructors c hc)
  have hcodec : Neat (if m.regions.isSome then codecLines m.unit else []) := by
    split
    · exact neat_codecLines h.unit
    · exact neat_nil
  have hall := neat_tripleQuoted "Every locale of the catalog, in sorted order."
    (.ofList (by decide))
  have hdefault := neat_tripleQuoted "Smallest locale of the catalog."
    (.ofList (by decide))
  simp only [classLines, neat_append, neat_cons, neat_indent, neat_nil, neat_blank, hlanguage,
    hregion, hconstructors, hcodec, hall, hdefault, true_and, and_true]
  and_intros <;> exact neat_ofList (by decide) (by decide)

theorem neat_localeLines (h : m.Tame) : Neat m.localeLines := by
  have hlocales : Neat (m.locales.map localeLine) := by
    intro l hl
    obtain ⟨locale, hlocale, rfl⟩ := List.mem_map.mp hl
    have hline : localeLine locale = line (localeExpression locale.1 ++ ",") := by
      rw [localeLine, h.locales locale hlocale]
      exact congrArg line String.append_empty
    rw [hline]
    exact neat_append_ofList (unbroken_localeExpression _) (by decide) (by decide)
  have hdefault : (line ("DEFAULT_LANG: Lang = " ++ localeExpression m.default)).Neat :=
    neat_line (Unbroken.append (.ofList (by decide)) (unbroken_localeExpression _))
      (Closed.append (Closed.append (.ofList (by decide)) _) _)
  simp only [localeLines, neat_append, neat_cons, neat_indent, neat_nil, hlocales, hdefault,
    and_true]
  and_intros <;> exact neat_ofList (by decide) (by decide)

/-- A tame module is written in neat lines. -/
theorem neat_lines (h : m.Tame) : Neat m.lines := by
  have hdocstring := neat_tripleQuoted m.docstring h.docstring
  have hexports : Neat (m.exports.map fun name => line (literal name ++ ",")) := by
    intro l hl
    obtain ⟨name, -, rfl⟩ := List.mem_map.mp hl
    exact neat_append_ofList (unbroken_literal name) (by decide) (by decide)
  have hcodec : Neat (if m.regions.isSome then codecErrorLines ++ blank 2 else []) := by
    split
    · have herror := neat_tripleQuoted
        "Lang.decode() met a language or region the catalog lacks." (.ofList (by decide))
      simp only [codecErrorLines, neat_append, neat_cons, neat_indent, neat_nil, neat_blank, herror,
        and_true]
      exact neat_ofList (by decide) (by decide)
    · exact neat_nil
  have hfunctions : Neat (m.functions.flatMap fun f => blank 2 ++ f.lines) :=
    neat_flatMap fun f hf =>
      neat_append.mpr ⟨neat_blank 2, Function.neat_lines (h.functions f hf)⟩
  simp only [lines, neat_append, neat_cons, neat_indent, neat_nil, neat_blank, hdocstring, hexports,
    hcodec, hfunctions, m.neat_tableLines, neat_classLines h, neat_localeLines h, and_true]
  and_intros <;> exact neat_ofList (by decide) (by decide)

end Module

section Endings

theorem Body.statement_ne_empty (b : Body) : b.statement ≠ "" := by
  cases b <;> simp [Body.statement]

/-- A function ends in the statement of its default. -/
theorem Function.ends_lines (f : Function) : Ends f.lines := by
  have hdefault : Ends [line f.default.statement] := ends_singleton f.default.statement_ne_empty
  exact ((((hdefault.indent.cons _).append _).indent.append _).indent.cons _)

/-- A module ends in its last function, or in its default locale. -/
theorem Module.ends_lines (m : Module) : Ends m.lines := by
  rw [Module.lines]
  rcases List.eq_nil_or_concat m.functions with hnone | ⟨before, f, hlast⟩
  · have hdefault : Ends [line ("DEFAULT_LANG: Lang = " ++ localeExpression m.default)] :=
      ends_singleton (by simp [line])
    rw [hnone, List.flatMap_nil, List.append_nil, Module.localeLines]
    exact ((hdefault.cons _).append _).append _
  · rw [hlast, List.concat_eq_append, List.flatMap_append, List.flatMap_singleton]
    exact ((f.ends_lines.append _).append _).append _

end Endings

section Catalogs

variable {catalog : Catalog} {sections : Sections} {config settings : Config}

theorem unbroken_of_isName {name : String} (h : Key.isName name = true) : Unbroken name :=
  unbroken_of_isIdentifier (Bool.and_eq_true .. ▸ h).1

/-- Indentation that is accepted stays on one line. -/
theorem unbroken_indent_of_validate (h : settings.validate = .ok settings) :
    Unbroken settings.indent := by
  have hindent : Config.isIndent settings.indent = true := by
    by_contra hnot
    rw [Config.validate, if_pos (by simpa using hnot)] at h
    cases h
  rw [Config.isIndent, Bool.and_eq_true, List.all_eq_true] at hindent
  intro c hc
  have hspace := hindent.2 c hc
  rcases Bool.or_eq_true _ _ ▸ hspace with hspace | hspace
  · rw [eq_of_beq hspace]
    rfl
  · rw [eq_of_beq hspace]
    rfl

/-- The module of a compiled catalog without names of locales is tame, whatever the catalog
says. -/
theorem Module.tame_ofDefault (hcompile : Catalog.compile sections config = .ok catalog)
    (hvalid : settings.validate = .ok settings) (hdocstring : Unbroken settings.docstring)
    (default : Locale) :
    (Module.ofDefault catalog settings none default).Tame where
  unit := unbroken_indent_of_validate hvalid
  docstring := hdocstring
  constructors c hc := unbroken_of_isName (isName_of_mem_constructorsFor hc)
  locales l hl := by
    obtain ⟨locale, -, rfl⟩ := List.mem_map.mp hl
    rfl
  functions f hf := by
    obtain ⟨m, hm, rfl⟩ := List.mem_map.mp hf
    obtain ⟨s, -, hreads⟩ := Catalog.exists_reads_of_mem hcompile hm
    exact unbroken_of_isIdentifier (Key.isDefinable_iff.mp hreads.definable).1

/-- Keys and wordings cannot add a line to a module. Its text is that of its lines, each of which
stays on one line and ends, unless it is empty, in a visible character. -/
theorem text_consists_of_neat_lines (hcompile : Catalog.compile sections config = .ok catalog)
    (hvalid : settings.validate = .ok settings) (hdescribe : settings.describeLocales = false)
    (hdocstring : Unbroken settings.docstring) (data : LocaleData) :
    ∃ module, Module.ofCatalog catalog settings data = .ok module ∧
      module.text =
        "\n".intercalate (module.lines.map (Line.render settings.indent)) ++ "\n" ∧
      (∀ l ∈ module.lines, Unbroken l.text ∧ Unbroken (l.render settings.indent) ∧
        (l.render settings.indent = "" ∨ Closed (l.render settings.indent))) ∧
      splitLines module.text.toList =
        module.lines.map (fun l => (l.render settings.indent).toList) ∧
      ¬ ['\n', '\n'] <:+ module.text.toList := by
  obtain ⟨default, -, hmodule⟩ := Module.exists_ofCatalog hcompile hdescribe data
  have htame := Module.tame_ofDefault hcompile hvalid hdocstring default
  have hneat := Module.neat_lines htame
  obtain ⟨htext, hsplit, hend⟩ := render_of_neat htame.unit hneat (Module.ends_lines _)
  refine ⟨_, hmodule, htext, fun line hline => ?_, hsplit, hend⟩
  have hline := hneat line hline
  exact ⟨hline.unbroken, unbroken_render htame.unit hline, closed_render hline⟩

/-- The module of hostile sections has the lines that it is printed with, and no others. -/
theorem text_of_hostile_consists_of_neat_lines : ∃ catalog module,
    Catalog.compile Sections.hostile {} = .ok catalog ∧ catalog.identifiers = ["menu_open"] ∧
      ({} : Config).validate = .ok {} ∧ Unbroken ({} : Config).docstring ∧
      Module.ofCatalog catalog {} .absent = .ok module ∧
      module.text = "\n".intercalate (module.lines.map (Line.render "    ")) ++ "\n" ∧
      splitLines module.text.toList = module.lines.map (fun l => (l.render "    ").toList) ∧
      ¬ ['\n', '\n'] <:+ module.text.toList := by
  have hshape : (Catalog.compile Sections.hostile {}).toOption.map Catalog.identifiers =
      some ["menu_open"] := by
    decide +kernel
  have hvalid : ({} : Config).validate = .ok {} := by decide +kernel
  have hdocstring : Unbroken ({} : Config).docstring := by decide +kernel
  cases hcompile : Catalog.compile Sections.hostile {} with
  | error e =>
      rw [hcompile] at hshape
      cases hshape
  | ok catalog =>
      rw [hcompile] at hshape
      obtain ⟨module, hmodule, htext, -, hsplit, hend⟩ :=
        text_consists_of_neat_lines hcompile hvalid rfl hdocstring .absent
      exact ⟨catalog, module, rfl, Option.some.inj hshape, hvalid, hdocstring, hmodule, htext,
        hsplit, hend⟩

end Catalogs

end Generated

end Phrasebook
