import Phrasebook.Proofs.Compilation.Failure
import Phrasebook.Proofs.Generated.Refinement
import Phrasebook.Proofs.Store

/-!
# What a build leaves behind

A build that cannot read, compile or generate is refused, and the store stays as it is, whether or
not the module was to take the place of a source. It is refused by a fault of its sources, or
because the names of locales are asked for and absent. A build that is not refused writes one file:
the module of the sources as they were before, in UTF-8, at the path that was asked for. If that
fails, no file is changed.
-/

namespace Phrasebook

open Generated

/-- A compiled catalog has no module only if the names of locales are asked for and absent. -/
theorem Generated.Module.absent_of_ofCatalog {sections : Sections} {config settings : Config}
    {c : Catalog} (hcompile : Catalog.compile sections config = .ok c) {data : LocaleData}
    {error : Error} (h : Module.ofCatalog c settings data = .error error) :
    settings.describeLocales = true ∧ data = .absent ∧
      error = .localeDataAbsent ⟨"describe_locales"⟩ := by
  by_cases hdata : settings.describeLocales = true → data ≠ .absent
  · obtain ⟨module, hmodule⟩ := Module.exists_ofCatalog_eq_ok hcompile hdata
    rw [hmodule] at h
    cases h
  · obtain ⟨hdescribe, hdata⟩ := Classical.not_imp.mp hdata
    obtain rfl := Classical.not_not.mp hdata
    rw [Module.ofCatalog, namesFor, hdescribe] at h
    exact ⟨hdescribe, rfl, (Except.error.inj h).symm⟩

namespace Build

variable {build : Build} {s : Surroundings} {error : Error}

/-- What ends a build before its module is there, by the stage that it ends. -/
inductive Refused (build : Build) (s : Surroundings) : Error → Prop
  /-- A source cannot be read, or its lines are no sections. -/
  | reading {f : Fault} (h : Source.readAll s.store build.sources = .error f) :
      Refused build s (.fault f)
  /-- The sections are no catalog. -/
  | compiling {sections : Sections} {error : Error}
      (hread : Source.readAll s.store build.sources = .ok sections)
      (h : Catalog.compile sections build.config = .error error) : Refused build s error
  /-- The catalog has no module. -/
  | emitting {catalog : Catalog} {error : Error}
      (hload : Catalog.load s.store build.sources build.config = .ok catalog)
      (h : Module.ofCatalog catalog build.config s.localeData = .error error) :
      Refused build s error

/-- A build is refused exactly if it generates nothing. -/
theorem refused_iff : build.Refused s error ↔ build.generate s = .error error := by
  have hload : Catalog.load s.store build.sources build.config = (do
      Catalog.compile (← (liftM (Source.readAll s.store build.sources) : Except Error Sections))
        build.config) := rfl
  constructor
  · intro h
    cases h with
    | reading h => rw [generate, hload, h]; rfl
    | compiling hread h => rw [generate, hload, hread]; exact congrArg (· >>= _) h
    | emitting hload h => rw [generate, hload]; exact h
  · intro h
    cases hread : Source.readAll s.store build.sources with
    | error f =>
        rw [generate, hload, hread] at h
        obtain rfl := Except.error.inj h
        exact .reading hread
    | ok sections =>
        rw [hread] at hload
        change _ = Catalog.compile sections build.config at hload
        cases hcompile : Catalog.compile sections build.config with
        | error e =>
            rw [generate, hload, hcompile] at h
            obtain rfl := Except.error.inj h
            exact .compiling hread hcompile
        | ok catalog =>
            rw [hcompile] at hload
            rw [generate, hload] at h
            exact .emitting hload h

/-- A build is refused by a fault, or because the names of locales are asked for and absent. -/
theorem Refused.fault_or_absent (h : build.Refused s error) :
    (∃ f, error = .fault f) ∨ build.config.describeLocales = true ∧ s.localeData = .absent ∧
      error = .localeDataAbsent ⟨"describe_locales"⟩ := by
  cases h with
  | @reading f h => exact .inl ⟨f, rfl⟩
  | @compiling sections error hread h =>
      have hlines := Source.one_le_line_of_readAll hread
      obtain ⟨f, hf, -⟩ := Catalog.failsByFault_compile hlines build.config error h
      exact .inl ⟨f, hf⟩
  | @emitting catalog error hload h =>
      obtain ⟨sections, -, hcompile⟩ := bind_eq_ok_iff.mp hload
      exact .inr (Module.absent_of_ofCatalog hcompile h)

/-- A build that is refused does nothing. -/
theorem run_of_refused (h : build.Refused s error) : build.run s = (.error error, s.store) := by
  rw [run, refused_iff.mp h]

/-- A build that generates a module ends as the writing of its text does. -/
theorem run_of_generate {generated : Module} (h : build.generate s = .ok generated) :
    ∃ store,
      (build.run s = (.ok (build.target s), store) ∧
        s.store.Written store (build.target s) (Text.encodeUtf8 generated.text.toList)) ∨
      ∃ failure, build.run s = (.error (.write failure), store) ∧ s.store.Grows store := by
  cases hwrite : writeText s.store (build.target s) generated.text with
  | mk store failure =>
      refine ⟨store, ?_⟩
      cases failure with
      | none =>
          refine .inl ⟨?_, written_of_writeText hwrite⟩
          rw [run, h]
          simp only [hwrite]
      | some failure =>
          refine .inr ⟨failure, ?_, grows_of_writeText hwrite⟩
          rw [run, h]
          simp only [hwrite]

/-- A build that is refused raises what refused it, a fault or the lack of the names of locales, and
leaves the store as it is. A build that succeeds leaves the module that it generates from the store
as it was, in UTF-8, at its target, and no other file is changed. A build that fails was refused, or
it could not write and changed no file at all. -/
theorem run_leaves_store_or_writes_target (build : Build) (s : Surroundings) :
    (∀ error, build.Refused s error → build.run s = (.error error, s.store) ∧
      ((∃ f, error = .fault f) ∨ build.config.describeLocales = true ∧
        s.localeData = .absent ∧ error = .localeDataAbsent ⟨"describe_locales"⟩)) ∧
    (∀ path store, build.run s = (.ok path, store) → path = build.target s ∧
      ∃ generated, build.generate s = .ok generated ∧
        s.store.Written store path (Text.encodeUtf8 generated.text.toList)) ∧
    ∀ error store, build.run s = (.error error, store) →
      build.Refused s error ∧ store = s.store ∨
        ∃ failure, error = .write failure ∧ s.store.Grows store := by
  refine ⟨fun error h => ⟨run_of_refused h, h.fault_or_absent⟩, fun path store hrun => ?_,
    fun error store hrun => ?_⟩
  · cases hgenerate : build.generate s with
    | error error =>
        rw [run_of_refused (refused_iff.mpr hgenerate)] at hrun
        cases hrun
    | ok generated =>
        obtain ⟨new, ⟨hok, hwritten⟩ | ⟨failure, hfailed, -⟩⟩ := run_of_generate hgenerate
        · obtain ⟨hpath, rfl⟩ := Prod.mk.inj (hok.symm.trans hrun)
          obtain rfl := Except.ok.inj hpath
          exact ⟨rfl, generated, rfl, hwritten⟩
        · rw [hfailed] at hrun
          cases hrun
  · cases hgenerate : build.generate s with
    | error cause =>
        have hrefused := refused_iff.mpr hgenerate
        obtain ⟨herror, rfl⟩ := Prod.mk.inj ((run_of_refused hrefused).symm.trans hrun)
        obtain rfl := Except.error.inj herror
        exact .inl ⟨hrefused, rfl⟩
    | ok generated =>
        obtain ⟨new, ⟨hok, -⟩ | ⟨failure, hfailed, hgrows⟩⟩ := run_of_generate hgenerate
        · rw [hok] at hrun
          cases hrun
        · obtain ⟨herror, rfl⟩ := Prod.mk.inj (hfailed.symm.trans hrun)
          exact .inr ⟨failure, (Except.error.inj herror).symm, hgrows⟩

/-- A build that puts its module in the place of its source. -/
def inPlace : Build := { sources := [.file (.ofText "menu.ini")], output := "./menu.ini" }

/-- Surroundings with a text in the file of that source. -/
def holding (text : String) : Surroundings :=
  { store := { nodes := [(["menu.ini"], .file (Text.encodeUtf8 text.toList))] } }

/-- A source whose wordings take different numbers of values is not overwritten; a source without a
fault gives way to its module. -/
theorem run_inPlace_leaves_or_writes :
    (∃ error, inPlace.run (holding "[menu]\nen = Open\nde = %d offen\n") =
      (.error error, (holding "[menu]\nen = Open\nde = %d offen\n").store)) ∧
    ∃ path store generated, inPlace.run (holding "[menu]\nen = Open\n") = (.ok path, store) ∧
      inPlace.generate (holding "[menu]\nen = Open\n") = .ok generated ∧
      (holding "[menu]\nen = Open\n").store.Written store path
        (Text.encodeUtf8 generated.text.toList) := by
  have hfails : (inPlace.generate (holding "[menu]\nen = Open\nde = %d offen\n")).isOk = false := by
    decide +kernel
  have hworks : (inPlace.run (holding "[menu]\nen = Open\n")).1.isOk = true := by
    decide +kernel
  constructor
  · cases hgenerate : inPlace.generate (holding "[menu]\nen = Open\nde = %d offen\n") with
    | ok generated =>
        rw [hgenerate] at hfails
        cases hfails
    | error error =>
        have hrefused := refused_iff.mpr hgenerate
        exact ⟨error, ((run_leaves_store_or_writes_target _ _).1 error hrefused).1⟩
  · cases hrun : inPlace.run (holding "[menu]\nen = Open\n") with
    | mk outcome store =>
        rw [hrun] at hworks
        cases outcome with
        | error error => cases hworks
        | ok path =>
            obtain ⟨-, generated, hgenerated, hwritten⟩ :=
              (run_leaves_store_or_writes_target _ _).2.1 path store hrun
            exact ⟨path, store, generated, rfl, hgenerated, hwritten⟩

end Build

end Phrasebook
