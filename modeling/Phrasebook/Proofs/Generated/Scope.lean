import Phrasebook.Proofs.Generated.LangClass
import Phrasebook.Proofs.Generated.Writing
import Phrasebook.Proofs.Text.Stable

/-!
# The names of a module

A name at the top of a module stands for what the last line that binds it says. Names are compared
as they are spelled, which is right where every name is its own normal form. The lines of a module
bind every name once: no function takes the place of a name that the module has for itself, since an
identifier has no capital and does not start with a single low line. Of the names that the lines of
functions and methods look up when they are called, a function can only have the name `int`, and
then it takes the place of the conversion in every function that turns an argument into an integer.
A function with the name `__builtins__` takes the conversion away from the functions behind it.
-/

namespace Phrasebook

namespace Generated

open Code Text

/-- The names at the top of a module, or known to every module, that the lines of functions and of
the methods of locales look up when they are called. -/
def lookedUp : List String :=
  ["Lang", "ALL_LANGUAGES", "DEFAULT_LANG", "_LANGUAGES", "_REGIONS", "_set_field",
    "UnknownLocaleOnDecode", "ValueError", "int"]

/-- Whether a character stands behind a name. -/
def endsName (c : Char) : Bool := c == '(' || c == ':' || c == ' '

/-- The name that a text at the top of a module binds: that of a function, of a class, of an import
or of a value. -/
def boundName? (text : List Char) : Option (List Char) :=
  match ["def ", "class ", "import ", "from typing import "].findSome?
      (·.toList.isPrefixOf? text) with
  | some rest => some (rest.takeWhile (!endsName ·))
  | none =>
    let name := text.takeWhile (!endsName ·)
    let rest := text.dropWhile (!endsName ·)
    if isIdentifier name && (": ".toList.isPrefixOf rest || " = ".toList.isPrefixOf rest) then
      some name
    else none

/-- The name that a line binds at the top of a module. -/
def bound? (l : Line) : Option String :=
  if l.depth = 0 then (boundName? l.text.toList).map String.ofList else none

/-- The line that says what a name stands for: the last one that binds it. -/
def binding? (name : String) (lines : List Line) : Option Line :=
  (lines.filter (bound? · == some name)).getLast?

/-- Whether functions with names in this order hide the conversion from the one with a name: one of
them is called `int`, or one in front of it is called `__builtins__`. -/
def HidesConversion (identifiers : List String) (name : String) : Prop :=
  "int" ∈ identifiers ∨ "__builtins__" ∈ identifiers.takeWhile (· != name)

/-- The arguments of a body. -/
def Body.arguments : Body → List Argument
  | .plain _ => []
  | .filled _ arguments => arguments

namespace Module

/-- A module without its functions. -/
def bare (m : Module) : Module := { m with functions := [] }

/-- The names that a module binds for itself. -/
def ownNames (m : Module) : List String :=
  ["dataclasses", "Self", "__all__", "_LANGUAGES"] ++
    (if m.regions.isSome then ["_REGIONS"] else []) ++ ["_set_field"] ++
    (if m.regions.isSome then ["UnknownLocaleOnDecode"] else []) ++
    ["Lang", "ALL_LANGUAGES", "DEFAULT_LANG"]

end Module

section Identifiers

end Identifiers

section Lines

/-- The lines of a block bind nothing at the top. -/
private theorem filterMap_bound?_indent {lines : List Line} (h : Level lines) :
    (indent lines).filterMap bound? = [] := by
  rw [List.filterMap_eq_nil_iff]
  exact fun l hl => if_neg (depth_pos_of_mem_indent h hl).ne'

/-- No character of an identifier stands behind a name. -/
private theorem endsName_of_mem_identifier {text : List Char} (h : isIdentifier text = true) :
    ∀ c ∈ text, (!endsName c) = true := by
  cases text with
  | nil => cases h
  | cons d rest =>
      rw [isIdentifier, Bool.and_eq_true, List.all_eq_true] at h
      have hends {set : CodePointSet} {c : Char} (hset : (['(', ':', ' '].any set.contains) = false)
          (hc : set.contains c = true) : (!endsName c) = true := by
        simp only [List.any_cons, List.any_nil, Bool.or_false, Bool.or_eq_false_iff] at hset
        simp only [endsName, Bool.not_eq_true', Bool.or_eq_false_iff, beq_eq_false_iff_ne]
        grind
      intro c hc
      rcases List.mem_cons.mp hc with rfl | hc
      · exact hends (by decide +kernel) h.1
      · exact hends (by decide +kernel) (h.2 c hc)

/-- The first line of a function binds its name. -/
theorem bound?_def {identifier : String} (h : isIdentifier identifier.toList = true)
    (rest : String) :
    bound? (line ("def " ++ (identifier ++ ("(" ++ rest)))) = some identifier := by
  have hname : boundName? ("def ".toList ++ (identifier.toList ++ '(' :: rest.toList)) =
      some identifier.toList := by
    rw [boundName?, List.findSome?_cons, isPrefixOf?_append]
    simp only [Option.some.injEq]
    rw [List.takeWhile_append_of_pos (endsName_of_mem_identifier h),
      List.takeWhile_cons_of_neg (by decide), List.append_nil]
  have htext : ("def " ++ (identifier ++ ("(" ++ rest))).toList =
      "def ".toList ++ (identifier.toList ++ '(' :: rest.toList) := by
    simp
  rw [bound?, line, if_pos rfl, htext, hname, Option.map_some, String.ofList_toList]

/-- A function binds its name and nothing else. -/
theorem Function.filterMap_bound?_lines {f : Function}
    (h : isIdentifier f.identifier.toList = true) : f.lines.filterMap bound? = [f.identifier] := by
  rw [Function.lines, String.append_assoc, String.append_assoc, String.append_assoc,
    List.filterMap_cons_some (bound?_def h _), filterMap_bound?_indent (by simp [Case.level_lines])]

/-- A line binds the name that its beginning says, whatever stands behind it. -/
theorem bound?_append (before name : String)
    (h : ∀ rest, boundName? (before.toList ++ rest) = some name.toList) (after : String) :
    bound? (line (before ++ after)) = some name := by
  rw [bound?, line, if_pos rfl, String.toList_append, h, Option.map_some, String.ofList_toList]

theorem bound?_tripleQuoted (text : String) : bound? (line (tripleQuoted text)) = none := by
  rw [bound?, line, if_pos rfl, tripleQuoted, String.toList_append, String.toList_append]
  rfl

end Lines

namespace Module

variable {m : Module}

private theorem filterMap_bound?_opening (m : Module) :
    m.opening.filterMap bound? = ["dataclasses", "Self", "__all__"] := by
  have hexports : (indent (m.exports.map fun name => line (literal name ++ ","))).filterMap
      bound? = [] := filterMap_bound?_indent (level_map fun _ => rfl)
  simp only [opening, List.filterMap_append, List.filterMap_cons, hexports, bound?_tripleQuoted]
  rfl

private theorem filterMap_bound?_tableLines (m : Module) : m.tableLines.filterMap bound? =
    "_LANGUAGES" :: (if m.regions.isSome then ["_REGIONS"] else []) ++ ["_set_field"] := by
  have hlanguages := bound?_append "_LANGUAGES: tuple[str, ...] = " "_LANGUAGES" (fun _ => rfl)
  have hregions := bound?_append "_REGIONS: tuple[str, ...] = " "_REGIONS" (fun _ => rfl)
  rw [tableLines, List.cons_append, List.filterMap_cons_some (hlanguages _)]
  cases m.regions with
  | none => rfl
  | some regions =>
      rw [Option.map_some, Option.toList_some, List.singleton_append,
        List.filterMap_cons_some (hregions _)]
      rfl

private theorem filterMap_bound?_classLines (m : Module) :
    m.classLines.filterMap bound? = ["Lang"] := by
  rw [classLines, List.filterMap_append, filterMap_bound?_indent]
  · rfl
  · simp only [level_append]
    refine ⟨by simp [Constructor.level_lines], ?_⟩
    split <;> simp [codecLines, encodeLines, decodeLines]

private theorem filterMap_bound?_localeLines (m : Module) :
    m.localeLines.filterMap bound? = ["ALL_LANGUAGES", "DEFAULT_LANG"] := by
  have hdefault := bound?_append "DEFAULT_LANG: Lang = " "DEFAULT_LANG" (fun _ => rfl)
  have hall : bound? (line "ALL_LANGUAGES: tuple[Lang, ...] = (") = some "ALL_LANGUAGES" := rfl
  rw [localeLines, List.cons_append, List.filterMap_cons_some hall, List.filterMap_append,
    filterMap_bound?_indent (level_map fun _ => rfl), List.nil_append,
    List.filterMap_cons_none rfl, List.filterMap_cons_some (hdefault _)]
  rfl

/-- Without its functions a module binds its own names, in the order of its lines. -/
theorem filterMap_bound?_bare (m : Module) : m.bare.lines.filterMap bound? = m.ownNames := by
  have hopening := m.bare.filterMap_bound?_opening
  rw [opening] at hopening
  rw [lines]
  simp only [List.filterMap_append] at hopening ⊢
  rw [hopening, filterMap_bound?_tableLines, filterMap_bound?_classLines,
    filterMap_bound?_localeLines, show m.bare.regions = m.regions from rfl, ownNames]
  cases m.regions <;> rfl

/-- The functions of a module bind their names. -/
theorem filterMap_bound?_functions {functions : List Function}
    (h : ∀ f ∈ functions, isIdentifier f.identifier.toList = true) :
    (functions.flatMap fun f => blank 2 ++ f.lines).filterMap bound? =
      functions.map Function.identifier := by
  induction functions with
  | nil => rfl
  | cons f functions ih =>
      obtain ⟨hf, hrest⟩ := List.forall_mem_cons.mp h
      rw [List.flatMap_cons, List.filterMap_append, List.filterMap_append,
        Function.filterMap_bound?_lines hf, ih hrest]
      rfl

/-- The functions of a module come behind all its other lines. -/
theorem lines_eq_bare_append (m : Module) :
    m.lines = m.bare.lines ++ m.functions.flatMap fun f => blank 2 ++ f.lines :=
  m.lines_eq_append

/-- A module binds its own names and then those of its functions. -/
theorem filterMap_bound?_lines
    (h : ∀ f ∈ m.functions, isIdentifier f.identifier.toList = true) :
    m.lines.filterMap bound? = m.ownNames ++ m.functions.map Function.identifier := by
  rw [lines_eq_bare_append, List.filterMap_append, filterMap_bound?_bare,
    filterMap_bound?_functions h]

end Module

section Conversion

end Conversion

section Catalogs

variable {sections : Sections} {config settings : Config} {catalog : Catalog} {data : LocaleData}
  {module : Module}

/-- What functions with given names leave as it is in a module. Every name is bound once. A name
that is not one of theirs stands for what it stands for without them, the class of locales is the
same, and each function that does not look up one of their names returns the same. -/
structure Module.Keeps (m : Module) (identifiers : List String) : Prop where
  /-- Every name is its own normal form, so names are the same only if they are spelled the same. -/
  stable : ∀ name ∈ m.ownNames ++ lookedUp ++ identifiers, isStable name.toList = true
  /-- The lines bind the names of the module and then those of the functions. -/
  bound : m.lines.filterMap bound? = m.ownNames ++ identifiers
  /-- No name is bound twice. -/
  once : (m.ownNames ++ identifiers).Nodup
  /-- The one name of a function that can be looked up is `int`. -/
  captured : ∀ name ∈ identifiers, name ∈ lookedUp → name = "int"
  /-- Other names stand for the same line as without the functions. -/
  binding : ∀ name, name ∉ identifiers → binding? name m.lines = binding? name m.bare.lines
  /-- The class of locales is the same as without the functions. -/
  methods : Class.read? m.lines = Class.read? m.bare.lines
  /-- A function returns what it returns where `int` is the conversion, unless other functions hide
  the conversion from it and the body turns an argument into an integer. -/
  functions : ∀ f ∈ m.functions, ∀ lang,
    (HidesConversion identifiers f.identifier →
      ∀ a ∈ (f.body lang).arguments, a.truncated = false) →
    ∀ values, m.apply f lang values = f.apply Value.truncate lang values

end Catalogs

end Generated

end Phrasebook
