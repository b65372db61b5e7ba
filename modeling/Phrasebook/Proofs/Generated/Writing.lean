import Phrasebook.Generated.Checked
import Phrasebook.Proofs.Compilation.Coverage
import Phrasebook.Proofs.Compilation.Failure
import Phrasebook.Proofs.Compilation.Independence
import Phrasebook.Proofs.Generated.Refinement
import Phrasebook.Proofs.Locale.Codec

/-!
# No check fails while a module is written

The conditions under which a module is written hold for every catalog that was loaded: all templates
of a message take the same number of values, and there is a default locale. So writing with checks
gives the text of the module.
-/

namespace Phrasebook

open Code Generated Text

section Functions

/-- The arguments of directives are the expressions for the arguments at their positions. -/
private theorem Directive.zipWith_argument (directives : List Directive) (position : Nat) :
    List.zipWith Directive.argument directives
        ((List.range' position directives.length).map argumentName) =
      (argumentsFrom position directives).map Argument.expression := by
  induction directives generalizing position with
  | nil => rfl
  | cons d rest ih =>
      rw [List.length_cons, List.range'_succ, List.map_cons, List.zipWith_cons_cons, ih,
        argumentsFrom, List.map_cons]
      rfl

/-- A template is returned by the statement of its body if it takes all arguments. -/
theorem Template.returned_eq_ok {t : Template} {arity : Nat} (h : t.arity = arity) :
    t.returned ((List.range arity).map argumentName) = .ok (Body.ofTemplate t).statement := by
  subst h
  rw [returned, Body.ofTemplate]
  by_cases hzero : t.arity = 0
  · rw [if_pos hzero, if_pos hzero, text, if_pos hzero]
    rfl
  · have harguments : Directive.argumentsOf t.directives ((List.range t.arity).map argumentName) =
        .ok ((argumentsFrom 0 t.directives).map Argument.expression) := by
      rw [Directive.argumentsOf, if_pos (by simp [arity]), List.range_eq_range', arity,
        Directive.zipWith_argument]
    rw [if_neg hzero, if_neg hzero, harguments]
    rfl

theorem Arm.written_eq_ok {arm : Arm} {arity : Nat} (h : arm.template.arity = arity) :
    arm.written ((List.range arity).map argumentName) = .ok (Case.ofArm arm).lines := by
  rw [written, Template.returned_eq_ok h]
  rfl

/-- Steps that all succeed give the list of their results. -/
private theorem mapM_eq_ok_map {ε α β : Type} {f : α → Except ε β} {g : α → β} {l : List α}
    (h : ∀ a ∈ l, f a = .ok (g a)) : l.mapM f = .ok (l.map g) := by
  rw [mapM_eq_ok_iff, List.forall₂_map_left_iff]
  exact List.forall₂_same.mpr h

/-- A message whose wordings take the same number of values is written as its function. -/
theorem Dispatch.written_eq_ok {m : Message} (h : ∀ w ∈ m.wordings, w.template.arity = m.arity)
    (policy : Policy) :
    (ofMessage m policy).written m.key = .ok (Function.ofMessage m policy).lines := by
  have harms : (ofMessage m policy).arms.mapM
      (Arm.written ((List.range m.arity).map argumentName)) =
        .ok ((ofMessage m policy).arms.map fun arm => (Case.ofArm arm).lines) := by
    refine mapM_eq_ok_map fun arm harm => Arm.written_eq_ok ?_
    obtain ⟨w, hw, ht, -⟩ := exists_wording_of_mem_arms harm
    rw [ht, h w hw]
  have hdefault : m.first.template.returned ((List.range m.arity).map argumentName) =
      .ok (Body.ofTemplate m.first.template).statement :=
    Template.returned_eq_ok rfl
  rw [written]
  change ((ofMessage m policy).arms.mapM (Arm.written ((List.range m.arity).map argumentName))
    >>= fun cases => m.first.template.returned ((List.range m.arity).map argumentName) >>= _) = _
  rw [harms]
  change (m.first.template.returned ((List.range m.arity).map argumentName) >>= _) = _
  rw [hdefault, Function.lines, Function.parameters, Function.ofMessage, List.flatMap_map]
  simp only [List.map_map]
  rfl

/-- The functions of a module stand behind the lines of the module without functions. -/
theorem Generated.Module.lines_eq_append (m : Module) : m.lines =
    { m with functions := [] }.lines ++ m.functions.flatMap fun f => blank 2 ++ f.lines := by
  rw [Module.lines, Module.lines, List.flatMap_nil, List.append_nil]
  rfl

end Functions

namespace Catalog

variable {catalog : Catalog} {sections : Sections} {config settings : Config}

/-- A catalog is written as its module, if the wordings of each message take the same number of
values and there is a default locale. -/
theorem written_eq_ok {default : Locale}
    (harity : ∀ m ∈ catalog.messages, ∀ w ∈ m.wordings, w.template.arity = m.arity)
    (hdefault : catalog.locales.default = .ok default) :
    catalog.written settings = .ok (Module.ofDefault catalog settings none default).text := by
  have hfunctions : catalog.messages.mapM
      (fun m => (Dispatch.ofMessage m catalog.fallback).written m.key) =
        .ok (catalog.messages.map fun m => (Function.ofMessage m catalog.fallback).lines) :=
    mapM_eq_ok_map fun m hm => Dispatch.written_eq_ok (harity m hm) catalog.fallback
  rw [written, hdefault]
  change (catalog.messages.mapM
    (fun m => (Dispatch.ofMessage m catalog.fallback).written m.key) >>= _) = _
  rw [hfunctions, Module.text, Module.lines_eq_append]
  have hlines : (Module.ofDefault catalog settings none default).functions.flatMap
      (fun f => blank 2 ++ f.lines) = (catalog.messages.map fun m =>
        (Function.ofMessage m catalog.fallback).lines).flatMap (blank 2 ++ ·) := by
    rw [Module.ofDefault, List.flatMap_map, List.flatMap_map]
  rw [hlines]
  rfl

/-- All templates of a message of a compiled catalog take the same number of values. -/
theorem arity_of_mem (h : compile sections config = .ok catalog) {m : Message}
    (hm : m ∈ catalog.messages) : ∀ w ∈ m.wordings, w.template.arity = m.arity := by
  obtain ⟨s, -, hreads⟩ := exists_reads_of_mem h hm
  exact hreads.arity

/-- What can be done with a catalog meets every condition on its parts. -/
structure Unfailing (catalog : Catalog) (settings : Config) (data : LocaleData) : Prop where
  /-- There is a default locale. -/
  default : ∃ default, catalog.locales.default = .ok default
  /-- The module is written with every check, and its text is that of the module. -/
  text : ∃ text, catalog.written settings = .ok text ∧ catalog.moduleText settings data = .ok text
  /-- The locales have a codec. -/
  codec : ∃ codec, LocaleCodec.ofSet catalog.locales = .ok codec
  /-- Every template that a locale selects takes as many values as the message. -/
  arity : ∀ name m, catalog.resolve name = .ok m → ∀ locale,
    ((Dispatch.ofMessage m catalog.fallback).select locale).arity = m.arity
  /-- Another number of values is rejected for every locale alike. -/
  count : ∀ name m, catalog.resolve name = .ok m → ∀ locale values, values.length ≠ m.arity →
    catalog.format name locale values = .error (.render (.argumentCount m.arity values.length))

/-- What can be done with a compiled catalog meets every condition. -/
theorem unfailing_of_compile (h : compile sections config = .ok catalog)
    (hdescribe : settings.describeLocales = false) (data : LocaleData) :
    catalog.Unfailing settings data := by
  obtain ⟨default, hdefault, hmodule⟩ := Module.exists_ofCatalog h hdescribe data
  have htext : catalog.moduleText settings data =
      .ok (Module.ofDefault catalog settings none default).text := by
    rw [moduleText, hmodule]
    rfl
  have harity : ∀ name m, catalog.resolve name = .ok m → ∀ locale,
      ((Dispatch.ofMessage m catalog.fallback).select locale).arity = m.arity := by
    intro name m hm locale
    obtain ⟨w, hw, hselect⟩ := Dispatch.exists_wording_select m catalog.fallback locale
    rw [hselect]
    exact arity_of_mem h (mem_of_resolve hm).1 w hw
  refine ⟨⟨default, hdefault⟩, ⟨_, written_eq_ok (fun m hm => arity_of_mem h hm) hdefault, htext⟩,
    ⟨_, ofSet_locales h⟩, harity, ?_⟩
  intro name m hm locale values hvalues
  have hdispatch : catalog.dispatch name = .ok (Dispatch.ofMessage m catalog.fallback) := by
    rw [dispatch, hm]
    rfl
  rw [format, hdispatch]
  change (Template.format ((Dispatch.ofMessage m catalog.fallback).select locale) values).mapError
    Error.render = _
  rw [Template.format, harity name m hm locale, if_pos hvalues]
  rfl

/-- Sources give a catalog or a fault at a valid place, whatever they are. A message is never made
without wordings, and whatever is done with the catalog meets every condition. -/
theorem load_unfailing_or_fault (store : Store) (sources : List Source) (config settings : Config)
    (data : LocaleData) (hdescribe : settings.describeLocales = false) :
    (∀ s, Message.ofSectionChecked s = Message.ofSection s) ∧
    ((∃ f : Fault, load store sources config = .error (.fault f) ∧ f.Placed) ∨
      ∃ catalog, load store sources config = .ok catalog ∧ catalog.Unfailing settings data) := by
  refine ⟨Message.ofSectionChecked_eq, ?_⟩
  cases hload : load store sources config with
  | error error =>
      obtain ⟨f, rfl, hplaced⟩ := failsByFault_load store sources config error hload
      exact .inl ⟨f, rfl, hplaced⟩
  | ok catalog =>
      obtain ⟨sections, -, hcompile⟩ := bind_eq_ok_iff.mp hload
      exact .inr ⟨catalog, rfl, unfailing_of_compile hcompile hdescribe data⟩

/-- A text and a stream that replaces one of its sections. -/
def overridden : List Source := [
  .text "[menu.files]\nen = %d files in %s\n[menu.done]\nen = 100%%\nfr = Fini\n",
  .stream "[menu.files]\r\nen = %d of %@\nfr-CA = %s : %5.1f\n" none]

/-- Wordings with two directives of different kinds are written for the same two arguments. -/
theorem load_overridden_unfailing : ∃ catalog,
    load {} overridden { fallback := .sameLanguage } = .ok catalog ∧
      catalog.identifiers = ["menu__done", "menu__files"] ∧
      catalog.Unfailing { emitCodec := true } .absent := by
  have hshape : (load {} overridden { fallback := .sameLanguage }).toOption.map
      Catalog.identifiers = some ["menu__done", "menu__files"] := by
    decide +kernel
  obtain ⟨-, ⟨f, hload, -⟩ | ⟨catalog, hload, hcatalog⟩⟩ := load_unfailing_or_fault {} overridden
    { fallback := .sameLanguage } { emitCodec := true } .absent rfl
  · rw [hload] at hshape
    cases hshape
  · rw [hload] at hshape
    exact ⟨catalog, hload, Option.some.inj hshape, hcatalog⟩

end Catalog

end Phrasebook
