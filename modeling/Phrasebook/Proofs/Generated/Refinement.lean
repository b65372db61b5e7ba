import Mathlib.Data.List.Find
import Phrasebook.Generated.Run
import Phrasebook.Locale.Codec
import Phrasebook.Proofs.Compilation.Acceptance
import Phrasebook.Proofs.Dispatch
import Phrasebook.Proofs.Generated.Reading
import Phrasebook.Proofs.Locale.Tag

/-!
# Generated functions refine the catalog

The function of a message, as it is written, returns for every locale and all arguments what the
catalog gives for the message, or fails with the same error. The cases are tried as the arms are,
a region that is absent being empty in one and missing in the other. A body without arguments is the
text that its format string would be rendered as, and the arguments of a formatting call are turned
into integers where the directives ask for it.
-/

namespace Phrasebook

/-- A region that a tag names is not empty. -/
theorem Locale.region_ne_empty_of_ofTag? {tag : String} {l : Locale}
    (h : Locale.ofTag? tag = some l) : l.region ≠ some "" :=
  fun hempty => ((Locale.canonical_of_ofTag? h).region "" hempty).nonempty rfl

namespace Generated

open Code

/-- A locale of a module as one of the catalog. -/
def Lang.locale (lang : Lang) : Locale := ⟨lang.language, LocaleCodec.regionOf lang.region⟩

/-- A case matches the locales that its arm serves, if the arm is for no empty region. -/
theorem Case.fits_ofArm {arm : Arm} (h : arm.region ≠ some "") (lang : Lang) :
    (Case.ofArm arm).fits lang = arm.fits lang.locale := by
  obtain ⟨language, region, template⟩ := arm
  obtain ⟨language', region'⟩ := lang
  have hregion : (region == some region') = (region == LocaleCodec.regionOf region') ∨
      region = none := by
    cases region with
    | none => exact .inr rfl
    | some r =>
        left
        rw [LocaleCodec.regionOf]
        split
        · rename_i hempty
          have hr : r ≠ "" := fun he => h (congrArg some he)
          simp [hempty, hr]
        · rfl
  rcases hregion with hregion | rfl
  · simp only [Case.fits, Case.ofArm, Arm.fits, Lang.locale, hregion]
  · simp [Case.fits, Case.ofArm, Arm.fits, Lang.locale]

/-- A function takes the body of the template that the dispatch selects. -/
theorem Function.body_ofMessage {m : Message} {policy : Policy}
    (h : ∀ w ∈ m.wordings, w.locale.region ≠ some "") (lang : Lang) :
    (Function.ofMessage m policy).body lang =
      Body.ofTemplate ((Dispatch.ofMessage m policy).select lang.locale) := by
  -- An empty region would match a locale without one; an arm has the region of a wording or none.
  have hregion : ∀ arm ∈ (Dispatch.ofMessage m policy).arms, arm.region ≠ some "" := by
    intro arm harm
    obtain ⟨w, hw, -, hlocale⟩ := Dispatch.exists_wording_of_mem_arms harm
    have hr : arm.region = arm.locale.region := rfl
    rcases hlocale with hlocale | hlocale
    · rw [hr, hlocale]
      exact h w hw
    · rw [hr, hlocale]
      exact nofun
  have hfind : ((Dispatch.ofMessage m policy).arms.map Case.ofArm).find? (·.fits lang) =
      ((Dispatch.ofMessage m policy).arms.find? (·.fits lang.locale)).map Case.ofArm := by
    rw [List.find?_map]
    exact congrArg _ (List.find?_congr fun arm harm => Case.fits_ofArm (hregion arm harm) lang)
  unfold Function.body Dispatch.select Function.ofMessage
  dsimp only
  rw [hfind]
  cases (Dispatch.ofMessage m policy).arms.find? (·.fits lang.locale) <;> rfl

/-- The arguments of a formatting call are the converted values of the directives. The induction
moves values, one for each directive, to those before the first argument. -/
private theorem mapM_argumentsFrom (ds : List Directive) (before values : List Value)
    (h : values.length = ds.length) :
    (argumentsFrom before.length ds).mapM (·.evaluate Value.truncate (before ++ values)) =
      Template.convert ds values := by
  induction ds generalizing before values with
  | nil => rfl
  | cons d rest ih =>
      obtain ⟨value, values, rfl⟩ := List.exists_cons_of_length_eq_add_one h
      have hargument : Argument.evaluate Value.truncate (before ++ value :: values)
          ⟨before.length, d.conversion.truncates⟩ =
          if d.conversion.truncates then value.truncate else pure value := by
        rw [Argument.evaluate, List.getElem?_append_right (le_refl _), Nat.sub_self]
        rfl
      have hrest := ih (before ++ [value]) values (by simpa using h)
      rw [List.length_append, List.length_singleton, List.append_assoc,
        List.singleton_append] at hrest
      rw [argumentsFrom, List.mapM_cons, hargument, hrest, Template.convert]
      split <;> rfl

/-- A body returns for the right number of arguments what its template is rendered as. -/
theorem Body.evaluate_ofTemplate {t : Template} {values : List Value}
    (h : values.length = t.arity) :
    (Body.ofTemplate t).evaluate Value.truncate values = t.format values := by
  rw [Body.ofTemplate, Template.format, if_neg (not_not.mpr h)]
  split
  · -- The plain text is what the format string, its braces doubled, is rendered as.
    rename_i harity
    have hvalues : values = [] := List.length_eq_zero_iff.mp (h.trans harity)
    have hdirectives : t.directives = [] := List.length_eq_zero_iff.mp harity
    rw [hvalues, hdirectives]
    exact (Template.render_formatString harity []).symm
  · have hconvert := mapM_argumentsFrom t.directives [] values h
    rw [List.nil_append, List.length_nil] at hconvert
    rw [Body.evaluate, hconvert]

/-- A function returns what the selected template is rendered as, also for a wrong number of
arguments. -/
theorem Function.apply_ofMessage {m : Message} {policy : Policy}
    (hregion : ∀ w ∈ m.wordings, w.locale.region ≠ some "")
    (harity : ∀ w ∈ m.wordings, w.template.arity = m.arity) (lang : Lang) (values : List Value) :
    (Function.ofMessage m policy).apply Value.truncate lang values =
      ((Dispatch.ofMessage m policy).select lang.locale).format values := by
  obtain ⟨w, hw, hselect⟩ := Dispatch.exists_wording_select m policy lang.locale
  have hfunction : (Function.ofMessage m policy).arity = w.template.arity := (harity w hw).symm
  rw [Function.apply, Function.body_ofMessage hregion, hselect, hfunction]
  split
  · rename_i hlength
    rw [Template.format, if_pos hlength]
  · rename_i hlength
    exact Body.evaluate_ofTemplate (not_not.mp hlength)

private theorem position_lt_of_mem_argumentsFrom {position : Nat} {ds : List Directive}
    {a : Argument} (h : a ∈ argumentsFrom position ds) : a.position < position + ds.length := by
  induction ds generalizing position with
  | nil => simp [argumentsFrom] at h
  | cons d rest ih =>
      rcases List.mem_cons.mp h with rfl | h
      · simp
      · have hrest := ih h
        rw [List.length_cons]
        omega

/-- The body of a template can be read where there is a parameter for each directive. -/
theorem Body.wellFormed_ofTemplate (t : Template) : (Body.ofTemplate t).WellFormed t.arity := by
  rw [Body.ofTemplate]
  split
  · trivial
  · rename_i harity
    refine ⟨fun hnone => harity ?_, fun a ha => ?_⟩
    · cases hd : t.directives with
      | nil => rw [Template.arity, hd, List.length_nil]
      | cons d rest => simp [hd, argumentsFrom] at hnone
    · simpa [Template.arity] using position_lt_of_mem_argumentsFrom ha

/-- No identifier has a parenthesis. -/
private theorem parenthesis_not_mem_of_isIdentifier {text : List Char}
    (h : Text.isIdentifier text = true) : '(' ∉ text := by
  cases text with
  | nil => simp
  | cons c rest =>
      rw [Text.isIdentifier, Bool.and_eq_true, List.all_eq_true] at h
      obtain ⟨hstart, hrest⟩ := h
      intro hmem
      rcases List.mem_cons.mp hmem with rfl | hmem
      · exact absurd hstart (by decide +kernel)
      · exact absurd (hrest _ hmem) (by decide +kernel)

/-- The function of a message can be read, if a module can define its name and all its wordings take
the same number of values. -/
theorem Function.wellFormed_ofMessage {m : Message} {policy : Policy}
    (hdefinable : Key.isDefinable m.identifier = true)
    (harity : ∀ w ∈ m.wordings, w.template.arity = m.arity) :
    (Function.ofMessage m policy).WellFormed where
  identifier := parenthesis_not_mem_of_isIdentifier (Key.isDefinable_iff.mp hdefinable).1
  cases := by
    intro c hc
    obtain ⟨arm, harm, rfl⟩ := List.mem_map.mp hc
    obtain ⟨w, hw, ht, -⟩ := Dispatch.exists_wording_of_mem_arms harm
    have hbody := Body.wellFormed_ofTemplate w.template
    rw [harity w hw, ← ht] at hbody
    exact hbody
  default := Body.wellFormed_ofTemplate m.first.template

/-- The lines of a function stand in those of its module. -/
theorem Module.lines_infix {m : Module} {f : Function} (h : f ∈ m.functions) :
    f.lines <:+: m.lines := by
  have hfunctions : m.functions.flatMap (fun f => blank 2 ++ f.lines) <:+ m.lines := ⟨_, rfl⟩
  obtain ⟨before, after, he⟩ := List.append_of_mem h
  refine List.IsInfix.trans ?_ hfunctions.isInfix
  rw [he, List.flatMap_append, List.flatMap_cons]
  exact ⟨before.flatMap (fun f => blank 2 ++ f.lines) ++ blank 2,
    after.flatMap (fun f => blank 2 ++ f.lines), by simp⟩

end Generated

namespace Catalog

/-- A message with a name of the catalog is rendered with the template that its dispatch selects. -/
theorem format_eq {c : Catalog} {name : String} {m : Message} (h : c.message? name = some m)
    (locale : Locale) (values : List Value) : c.format name locale values =
      (((Dispatch.ofMessage m c.fallback).select locale).format values).mapError .render := by
  rw [format, dispatch, resolve, get?, h]
  rfl

/-- A compiled catalog has a default locale. -/
theorem exists_default {sections : Sections} {config : Config} {c : Catalog}
    (hcompile : compile sections config = .ok c) :
    ∃ default, c.locales.default = .ok default := by
  obtain ⟨l, rest, hlocales⟩ := List.exists_cons_of_ne_nil (locales_ne_nil hcompile)
  exact ⟨l, by rw [LocaleSet.default, hlocales]⟩

end Catalog

namespace Generated

/-- Names of locales are there for a module exactly if they are at hand or not asked for. -/
theorem exists_namesFor_iff {config : Config} {data : LocaleData} :
    (∃ names, namesFor config data = .ok names) ↔
      (config.describeLocales = true → data ≠ .absent) := by
  rw [namesFor]
  cases config.describeLocales with
  | false => simp
  | true => cases data <;> simp [LocaleData.require]

/-- A catalog has a module exactly if the names of locales are at hand or not asked for, and there
is a default locale. -/
theorem Module.ofCatalog_eq_ok_iff {c : Catalog} {config : Config} {data : LocaleData}
    {module : Module} : Module.ofCatalog c config data = .ok module ↔
      ∃ names, namesFor config data = .ok names ∧
        ∃ default, c.locales.default = .ok default ∧
          Module.ofDefault c config names default = module := by
  rw [ofCatalog, bind_eq_ok_iff]
  refine exists_congr fun names => and_congr liftM_absent_eq_ok_iff ?_
  rw [bind_eq_ok_iff]
  refine exists_congr fun default => and_congr liftM_invalid_eq_ok_iff ?_
  exact ⟨Except.ok.inj, congrArg Except.ok⟩

/-- A module has the languages of its catalog, and a function for each message. -/
theorem Module.of_ofCatalog {c : Catalog} {config : Config} {data : LocaleData} {module : Module}
    (h : Module.ofCatalog c config data = .ok module) :
    module.languages = c.locales.languages ∧
      module.functions = c.messages.map fun m => Function.ofMessage m c.fallback := by
  obtain ⟨names, -, default, -, rfl⟩ := Module.ofCatalog_eq_ok_iff.mp h
  exact ⟨rfl, rfl⟩

/-- A compiled catalog has a module if the names of locales are at hand or not asked for. -/
theorem Module.exists_ofCatalog_eq_ok {sections : Sections} {config settings : Config}
    {c : Catalog} (hcompile : Catalog.compile sections config = .ok c) {data : LocaleData}
    (hdata : settings.describeLocales = true → data ≠ .absent) :
    ∃ module, Module.ofCatalog c settings data = .ok module := by
  obtain ⟨names, hnames⟩ := exists_namesFor_iff.mpr hdata
  obtain ⟨default, hdefault⟩ := Catalog.exists_default hcompile
  exact ⟨_, Module.ofCatalog_eq_ok_iff.mpr ⟨names, hnames, default, hdefault, rfl⟩⟩

/-- If the names of locales are not asked for, a compiled catalog has a module without them. -/
theorem Module.exists_ofCatalog {sections : Sections} {config settings : Config} {c : Catalog}
    (hcompile : Catalog.compile sections config = .ok c)
    (hdescribe : settings.describeLocales = false) (data : LocaleData) :
    ∃ default, c.locales.default = .ok default ∧
      Module.ofCatalog c settings data = .ok (Module.ofDefault c settings none default) := by
  obtain ⟨default, hdefault⟩ := Catalog.exists_default hcompile
  have hnames : namesFor settings data = .ok none := by
    rw [namesFor, hdescribe]
    rfl
  exact ⟨default, hdefault,
    Module.ofCatalog_eq_ok_iff.mpr ⟨none, hnames, default, hdefault, rfl⟩⟩

/-- The lines written for a message of a compiled catalog define a function that returns for every
locale and all arguments what the catalog gives, or fails with the same error. -/
theorem written_function_refines_format {sections : Sections} {config : Config} {catalog : Catalog}
    (hcompile : Catalog.compile sections config = .ok catalog) (name : String)
    (hname : name ∈ catalog.identifiers) (language : String)
    (hlanguage : language ∈ catalog.locales.languages) (region : String) (values : List Value) :
    ∃ m f, catalog.message? name = some m ∧
      Function.read? (Function.ofMessage m catalog.fallback).lines = some f ∧
      f.identifier = name ∧
      (∀ settings data module, Module.ofCatalog catalog settings data = .ok module →
        (Function.ofMessage m catalog.fallback).lines <:+: module.lines ∧
          module.lang language region = .ok ⟨language, Text.lower region⟩) ∧
      (f.apply Value.truncate ⟨language, Text.lower region⟩ values).mapError Error.render =
        catalog.format name ⟨language, LocaleCodec.regionOf (Text.lower region)⟩ values := by
  obtain ⟨m, hm⟩ := Catalog.exists_message? hname
  have hmem : m ∈ catalog.messages := List.mem_of_find?_eq_some hm
  have hidentifier : m.identifier = name := by simpa using List.find?_some hm
  obtain ⟨s, -, hreads⟩ := Catalog.exists_reads_of_mem hcompile hmem
  have hregion : ∀ w ∈ m.wordings, w.locale.region ≠ some "" := by
    intro w hw
    obtain ⟨e, -, hwe⟩ := exists_right_of_forall₂ hreads.wordings hw
    exact Locale.region_ne_empty_of_ofTag? hwe.locale
  refine ⟨m, Function.ofMessage m catalog.fallback, hm,
    Function.read?_lines (Function.wellFormed_ofMessage hreads.definable hreads.arity),
    hidentifier, ?_, ?_⟩
  · intro settings data module hmodule
    obtain ⟨hlanguages, hfunctions⟩ := Module.of_ofCatalog hmodule
    constructor
    · apply Module.lines_infix
      rw [hfunctions]
      exact List.mem_map_of_mem hmem
    · rw [Module.lang, hlanguages, if_pos (by simpa using hlanguage)]
  · rw [Function.apply_ofMessage hregion hreads.arity, Catalog.format_eq hm]
    rfl

/-- The French wording of a menu, which has a directive, for a region without a wording of its own
and a value that is read as an integer. -/
theorem written_menu_refines_format : ∃ catalog m f,
    Catalog.compile Sections.menu { fallback := .sameLanguage } = .ok catalog ∧
      catalog.message? "menu__open_files" = some m ∧
      Function.read? (Function.ofMessage m catalog.fallback).lines = some f ∧
      (f.apply Value.truncate ⟨"fr", Text.lower "CA"⟩ [.text " 12 "]).mapError Error.render =
        catalog.format "menu__open_files" ⟨"fr", LocaleCodec.regionOf (Text.lower "CA")⟩
          [.text " 12 "] := by
  have hshape : (Catalog.compile Sections.menu { fallback := .sameLanguage }).toOption.map
      (fun c => (c.identifiers, c.locales.languages)) =
      some (["greeting", "menu__open_files"], ["en", "fr"]) := by
    decide +kernel
  cases hc : Catalog.compile Sections.menu { fallback := .sameLanguage } with
  | error e =>
      rw [hc] at hshape
      cases hshape
  | ok catalog =>
      rw [hc] at hshape
      obtain ⟨hidentifiers, hlanguages⟩ := Prod.mk.inj (Option.some.inj hshape)
      obtain ⟨m, f, hm, hread, -, -, happly⟩ := written_function_refines_format hc
        "menu__open_files" (by rw [hidentifiers]; decide) "fr" (by rw [hlanguages]; decide) "CA"
        [.text " 12 "]
      exact ⟨catalog, m, f, rfl, hm, hread, happly⟩

end Generated

end Phrasebook
