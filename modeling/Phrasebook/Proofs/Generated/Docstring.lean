import Phrasebook.Proofs.Caller.LongString
import Phrasebook.Proofs.Generated.Neatness
import Phrasebook.Proofs.Locale.Codec

/-!
# Docstrings stay between their marks

The docstring of a module is written as it is between triple quotation marks, without escaping. The
options are refused unless it can stand there, so whatever it says it ends at the marks that are
written behind it: a reader of the module finds one string, and below it the code of the module and
nothing else.
-/

namespace Phrasebook

open Text

namespace Config

variable {settings : Config}

theorem hasTripleQuote_iff (text : List Char) :
    hasTripleQuote text = true ↔ [quotationMark, quotationMark, quotationMark] <:+: text := by
  induction text with
  | nil => simp [hasTripleQuote]
  | cons c rest ih =>
      rw [hasTripleQuote, Bool.or_eq_true, ih, List.infix_cons_iff, List.prefix_iff_eq_take,
        beq_iff_eq, eq_comm]
      rfl

/-- The check asks for what can be put between triple quotation marks. -/
theorem isDocstring_iff {text : String} :
    isDocstring text = true ↔ Caller.Enclosable quotationMark text.toList := by
  rw [isDocstring, Bool.and_eq_true, Bool.not_eq_true', ← Bool.not_eq_true, hasTripleQuote_iff]
  constructor
  · rintro ⟨htriple, hlast⟩
    refine ⟨htriple, fun c hc => ?_⟩
    simpa [hc, quotationMark] using hlast
  · intro h
    refine ⟨h.triple, ?_⟩
    cases hlast : text.toList.getLast? with
    | none => rfl
    | some c => simpa [quotationMark] using h.last c hlast

theorem enclosable_of_validate (h : settings.validate = .ok settings) :
    Caller.Enclosable quotationMark settings.docstring.toList := by
  rw [← isDocstring_iff]
  by_contra hnot
  rw [validate] at h
  split_ifs at h with hindent hdocstring
  exact hdocstring (by simpa using hnot)

/-- Options whose docstring bristles with quotation marks and backslashes. -/
def bristling : Config := { docstring := "\"\"\\\"\"x\\\\\"\"\\\r\n.\"\"-" }

end Config

namespace Generated

open Code Caller

theorem toList_tripleQuoted (text : String) :
    (tripleQuoted text).toList = enclosed quotationMark text.toList := by
  rw [tripleQuoted, String.toList_append, String.toList_append, List.append_assoc]
  rfl

namespace Module

/-- The text of a module below its docstring. -/
def code (m : Module) : String := render m.unit (m.lines.drop 2)

/-- The place behind the docstring of a module. -/
def docstringEnd (m : Module) : Scanner :=
  Scanner.advance { line := 2 } (unifyNewlines (tripleQuoted m.docstring).toList)

/-- A module starts with its header and its docstring, and its code does not end there. -/
private theorem exists_lines_eq (m : Module) : ∃ rest, Ends rest ∧
    m.lines = line header :: line (tripleQuoted m.docstring) :: rest := by
  obtain ⟨rest, hlines⟩ : ∃ rest, m.lines =
      line header :: line (tripleQuoted m.docstring) :: line "" :: rest := ⟨_, rfl⟩
  have hends := m.ends_lines
  rw [hlines] at hends
  exact ⟨_, (hends.tail (List.cons_ne_nil _ _)).tail (List.cons_ne_nil _ _), hlines⟩

theorem text_eq (m : Module) :
    m.text = header ++ "\n" ++ tripleQuoted m.docstring ++ "\n" ++ m.code := by
  obtain ⟨rest, hends, hlines⟩ := m.exists_lines_eq
  have hcode : m.code = render m.unit rest := by
    rw [code, hlines]
    rfl
  rw [text, hlines, render_cons (hends.cons _), render_cons hends, render_line, render_line, hcode]
  simp only [String.append_assoc]

private theorem code_ne_empty (m : Module) : m.code.toList ≠ [] := by
  simp [code, render, joinLines]

/-- Line endings are unified in the docstring and in the code apart. -/
theorem closeLines_text (m : Module) :
    closeLines m.text.toList = header.toList ++ '\n' ::
      (unifyNewlines (tripleQuoted m.docstring).toList ++ '\n' :: closeLines m.code.toList) := by
  have htext : m.text.toList =
      (header.toList ++ ['\n'] ++ enclosed quotationMark m.docstring.toList ++ ['\n']) ++
        m.code.toList := by
    simp [text_eq, toList_tripleQuoted]
  have hheader : unifyNewlines (header.toList ++ ['\n']) = header.toList ++ ['\n'] := by decide
  have hlast : (header.toList ++ ['\n'] ++ enclosed quotationMark m.docstring.toList).getLast? =
      some quotationMark := by
    rw [List.getLast?_append, getLast?_enclosed]
    rfl
  rw [htext, closeLines_append (by rw [List.getLast?_concat]; decide) m.code_ne_empty,
    unifyNewlines_append (by rw [hlast]; decide), unifyNewlines_append (by simp), hheader,
    toList_tripleQuoted]
  simp [unifyNewlines]

private theorem length_closeLines_code (m : Module) :
    (closeLines m.code.toList).length + 2 ≤ (closeLines m.text.toList).length := by
  rw [closeLines_text]
  simp only [List.length_append, List.length_cons]
  omega

/-- A module is cut into its docstring, the end of its line and what its code is cut into. One step
is spent on the header and five on the docstring and the end of its line. -/
theorem scanLine_text (m : Module) (h : Enclosable quotationMark m.docstring.toList) (fuel : Nat) :
    scanLine (fuel + 6) {} (closeLines m.text.toList) =
      ⟨.string false (soundCharacters (unifyNewlines m.docstring.toList)), "", 2, 0⟩ ::
        m.docstringEnd.token .newline ::
        scanLine fuel (m.docstringEnd.advance ['\n']) (closeLines m.code.toList) := by
  have hheader : header.toList = '#' :: header.toList.tail := rfl
  have hremark : '\n' ∉ header.toList.tail := by decide
  rw [closeLines_text, hheader, scanLine_remark _ _ hremark, docstringEnd, toList_tripleQuoted,
    unifyNewlines_enclosed, scanLine_enclosed _ rfl rfl (h.unifyNewlines (by decide))]
  rfl

end Module

/-- A docstring that is accepted cannot leave its quotation marks, whatever it says and whatever
follows. By the rule for triple marks it ends at the three that are written behind it, and the
reader of strings finds it there. In a module it stands between the header and the code; the module
is cut into its docstring as one string, the end of that line and the code, which starts anew. -/
theorem docstring_ends_at_its_closing_marks {settings : Config}
    (hvalid : settings.validate = .ok settings) :
    (∀ after : List Char,
      EndsAt quotationMark ((tripleQuoted settings.docstring).toList.drop 3 ++ after)
          settings.docstring.length ∧
        stringBody? quotationMark ((tripleQuoted settings.docstring).toList.tail ++ after) =
          some (settings.docstring.toList, after)) ∧
      ∀ catalog data module, Module.ofCatalog catalog settings data = .ok module →
        module.text = header ++ "\n" ++ tripleQuoted settings.docstring ++ "\n" ++ module.code ∧
          ∃ fuel, 4 * (closeLines module.code.toList).length + 8 ≤ fuel ∧
            tokens module.text =
              if module.text.toList.contains '\x00' then [⟨.bad .grammar true, "", 1, 0⟩]
              else
                ⟨.string false (soundCharacters (unifyNewlines settings.docstring.toList)), "",
                    2, 0⟩ ::
                  module.docstringEnd.token .newline ::
                  scanLine fuel (module.docstringEnd.advance ['\n'])
                    (closeLines module.code.toList) := by
  have henclosable := Config.enclosable_of_validate hvalid
  refine ⟨fun after => ⟨?_, ?_⟩, fun catalog data module hmodule => ?_⟩
  · have hends := henclosable.endsAt (by decide) after
    rw [String.length_toList, ← List.append_assoc] at hends
    rw [toList_tripleQuoted]
    exact hends
  · rw [toList_tripleQuoted]
    exact henclosable.stringBody?_enclosed (by decide) after
  · have hdocstring : module.docstring = settings.docstring := by
      obtain ⟨names, -, default, -, rfl⟩ := Module.ofCatalog_eq_ok_iff.mp hmodule
      rfl
    have hlength := module.length_closeLines_code
    rw [← hdocstring] at henclosable ⊢
    refine ⟨module.text_eq, 4 * (closeLines module.text.toList).length + 2, by omega, ?_⟩
    rw [tokens, ← module.scanLine_text henclosable]

/-- The bristling docstring ends at its closing marks. It is one string over two lines. -/
theorem bristling_ends_at_its_closing_marks : ∃ catalog module rest,
    Config.bristling.validate = .ok Config.bristling ∧
      Catalog.compile Sections.british {} = .ok catalog ∧
      Module.ofCatalog catalog Config.bristling .absent = .ok module ∧
      EndsAt quotationMark
        ((tripleQuoted Config.bristling.docstring).toList.drop 3 ++ '\n' :: module.code.toList) 17 ∧
      stringBody? quotationMark
          ((tripleQuoted Config.bristling.docstring).toList.tail ++ '\n' :: module.code.toList) =
        some (Config.bristling.docstring.toList, '\n' :: module.code.toList) ∧
      tokens module.text =
        if module.text.toList.contains '\x00' then [⟨.bad .grammar true, "", 1, 0⟩]
        else ⟨.string false true, "", 2, 0⟩ :: ⟨.newline, "", 3, 7⟩ :: rest := by
  have hvalid : Config.bristling.validate = .ok Config.bristling := by decide
  obtain ⟨catalog, hcompile, -, -⟩ := Catalog.exists_compile_british
  obtain ⟨default, -, hmodule⟩ :=
    Module.exists_ofCatalog hcompile (rfl : Config.bristling.describeLocales = false) .absent
  obtain ⟨hends, hmodules⟩ := docstring_ends_at_its_closing_marks hvalid
  obtain ⟨-, fuel, -, htokens⟩ := hmodules catalog .absent _ hmodule
  have hsound : soundCharacters (unifyNewlines Config.bristling.docstring.toList) = true := by
    decide
  have hplace : (Module.ofDefault catalog Config.bristling none default).docstringEnd.token
      .newline = ⟨.newline, "", 3, 7⟩ := by
    change (Scanner.advance { line := 2 }
      (unifyNewlines (tripleQuoted Config.bristling.docstring).toList)).token .newline = _
    decide
  rw [hsound, hplace] at htokens
  exact ⟨catalog, _, _, hvalid, hcompile, hmodule, (hends _).1, (hends _).2, htokens⟩

end Generated

end Phrasebook
