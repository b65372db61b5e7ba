import Mathlib.Data.List.Basic
import Phrasebook.Generated.Print
import Phrasebook.Proofs.Text.Literal

/-!
# Reading generated functions

A reader of the lines of a generated function, by the rules of the language that they are written
in: literals denote texts, names denote parameters, a pattern is a language with a region or with a
low line. It refuses everything else. What is printed is read as what it was printed from, so that
the meaning of a function is the meaning of its lines.
-/

namespace Phrasebook.Generated

open Code Text

/-- What a text holds between its opening and its closing. -/
def between? (opening closing text : List Char) : Option (List Char) :=
  (opening.isPrefixOf? text).bind closing.isSuffixOf?

/-- The first item of a list that is written with commas, and the other ones. -/
def items : List Char → List Char × List (List Char)
  | [] => ([], [])
  | ',' :: ' ' :: rest => ([], (items rest).1 :: (items rest).2)
  | c :: rest => (c :: (items rest).1, (items rest).2)

/-- The argument of a formatting call that an expression denotes, where parameters have names. -/
def Argument.read? (names : List (List Char)) (text : List Char) : Option Argument :=
  match between? "int(".toList ")".toList text with
  | some name => (names.idxOf? name).map (⟨·, true⟩)
  | none => (names.idxOf? text).map (⟨·, false⟩)

/-- The body that a statement returns. -/
def Body.read? (names : List (List Char)) (text : List Char) : Option Body := do
  let expression ← "return ".toList.isPrefixOf? text
  let (value, after) ← readLiteral? expression
  if after = [] then return .plain (String.ofList value)
  else
    let (first, others) := items (← between? ".format(".toList ")".toList after)
    return .filled (String.ofList value) (← (first :: others).mapM (Argument.read? names))

/-- The language and the region of the pattern of a case. -/
def Case.readPattern? (text : List Char) : Option (String × Option String) := do
  let inside ← between? "case Lang(".toList "):".toList text
  let (language, after) ← readLiteral? inside
  let region ← ", ".toList.isPrefixOf? after
  if region = ['_'] then return (String.ofList language, none)
  else
    let (region, after) ← readLiteral? region
    if after = [] then return (String.ofList language, some (String.ofList region)) else none

/-- The cases of a function and its default, which comes last. -/
def readCases? (names : List (List Char)) : List Line → Option (List Case × Body)
  | head :: statement :: rest =>
    if head.depth = 2 ∧ statement.depth = 3 then do
      let body ← Body.read? names statement.text.toList
      if head.text = "case _:" then (if rest = [] then return ([], body) else none)
      else
        let (language, region) ← Case.readPattern? head.text.toList
        let (cases, default) ← readCases? names rest
        return (⟨language, region, body⟩ :: cases, default)
    else none
  | _ => none

/-- The names of the parameters behind the locale. -/
def readParameters? (text : List Char) : Option (List (List Char)) :=
  let (first, others) := items text
  if first = "lang: Lang".toList ∧ others.getLast? = some ['/'] then
    others.dropLast.mapM (between? [] ": object".toList)
  else none

/-- The function that lines define. -/
def Function.read? : List Line → Option Function
  | head :: doc :: subject :: rest =>
    if head.depth = 0 ∧ doc.depth = 1 ∧ subject = ⟨1, "match lang:"⟩ then do
      let signature ← between? "def ".toList ") -> str:".toList head.text.toList
      let names ← readParameters? (signature.dropWhile (· ≠ '(')).tail
      let (title, after) ← readLiteral? doc.text.toList
      let key ← between? "Translation of [".toList "].".toList title
      let (cases, default) ← readCases? names rest
      if after = [] then
        return {
          key := String.ofList key
          identifier := String.ofList (signature.takeWhile (· ≠ '('))
          arity := names.length
          cases
          default }
      else none
    else none
  | _ => none

section Pieces

@[simp] theorem isPrefixOf?_append (l rest : List Char) : l.isPrefixOf? (l ++ rest) = some rest :=
  List.isPrefixOf?_eq_some_iff_append_eq.mpr rfl

/-- What stands between an opening and a closing is found there. -/
theorem between?_append (opening text closing : List Char) :
    between? opening closing (opening ++ (text ++ closing)) = some text := by
  rw [between?, isPrefixOf?_append, Option.bind_some, List.isSuffixOf?_eq_some_iff_append_eq]

private theorem items_append {item : List Char} (h : ',' ∉ item) (rest : List Char) :
    items (item ++ rest) = (item ++ (items rest).1, (items rest).2) := by
  induction item with
  | nil => rfl
  | cons c item ih =>
      rw [List.mem_cons, not_or] at h
      rw [List.cons_append, items, ih h.2, List.cons_append]
      rintro - rfl
      exact absurd rfl h.1

/-- Items without commas are read one by one. -/
theorem items_intercalate {first : List Char} {others : List (List Char)}
    (h : ∀ item ∈ first :: others, ',' ∉ item) :
    items (", ".toList.intercalate (first :: others)) = (first, others) := by
  induction others generalizing first with
  | nil =>
      have hfirst := items_append (h first (List.mem_singleton_self first)) []
      simpa [items] using hfirst
  | cons next others ih =>
      obtain ⟨hfirst, hothers⟩ := List.forall_mem_cons.mp h
      have hseparator (rest : List Char) :
          items (", ".toList ++ rest) = ([], (items rest).1 :: (items rest).2) := items.eq_2 rest
      rw [List.intercalate_cons_cons, List.append_assoc, items_append hfirst, hseparator,
        ih hothers, List.append_nil]

end Pieces

section Arguments

/-- The names of the parameters of a function behind the locale. -/
def parameterNames (arity : Nat) : List (List Char) :=
  (List.range arity).map fun position => (argumentName position).toList

@[simp] theorem length_parameterNames (arity : Nat) : (parameterNames arity).length = arity := by
  simp [parameterNames]

theorem toList_argumentName (position : Nat) :
    (argumentName position).toList = "arg".toList ++ Nat.toDigits 10 position := by
  rw [argumentName]
  simp [String.toList_append, toString, Nat.repr_eq_ofList_toDigits]

/-- Different positions have different names. -/
theorem argumentName_injective : Function.Injective argumentName := by
  intro p q h
  have hnames := congrArg String.toList h
  rw [toList_argumentName, toList_argumentName] at hnames
  have hnumbers := congrArg (Nat.ofDigitChars 10 · 0) (List.append_cancel_left hnames)
  simpa only [Nat.ofDigitChars_toDigits (show 1 < 10 by decide) (le_refl 10)] using hnumbers

/-- The names of arguments have no commas. -/
private theorem comma_not_mem_argumentName (position : Nat) :
    ',' ∉ (argumentName position).toList := by
  rw [toList_argumentName, List.mem_append, not_or]
  refine ⟨by decide, fun h => ?_⟩
  have hdigit := Nat.isDigit_of_mem_toDigits (by decide) (by decide) h
  exact absurd hdigit (by decide)

/-- A parameter is found under its name. -/
theorem idxOf?_parameterNames {position arity : Nat} (h : position < arity) :
    (parameterNames arity).idxOf? (argumentName position).toList = some position := by
  rw [List.idxOf?_eq_some_iff]
  refine ⟨by simpa using h, by simp [parameterNames], fun q hq he => ?_⟩
  have hname : argumentName q = argumentName position :=
    String.toList_inj.mp (by simpa [parameterNames] using he)
  exact absurd (argumentName_injective hname) hq.ne

/-- An argument is read back from its expression. -/
theorem Argument.read?_expression {a : Argument} {arity : Nat} (h : a.position < arity) :
    Argument.read? (parameterNames arity) a.expression.toList = some a := by
  obtain ⟨position, truncated⟩ := a
  have hindex := idxOf?_parameterNames h
  cases truncated with
  | true =>
      rw [Argument.expression, if_pos rfl, String.toList_append, String.toList_append,
        List.append_assoc, Argument.read?, between?_append]
      simp only [hindex, Option.map_some]
  | false =>
      have hplain : between? "int(".toList ")".toList (argumentName position).toList = none := by
        rw [toList_argumentName]
        rfl
      rw [Argument.expression, if_neg Bool.false_ne_true, Argument.read?, hplain]
      simp only [hindex, Option.map_some]

/-- The expression of an argument has no comma. -/
theorem Argument.comma_not_mem_expression (a : Argument) : ',' ∉ a.expression.toList := by
  have hname := comma_not_mem_argumentName a.position
  rw [Argument.expression]
  split
  · rw [String.toList_append, String.toList_append, List.mem_append, List.mem_append, not_or,
      not_or]
    exact ⟨⟨by decide, hname⟩, by decide⟩
  · exact hname

end Arguments

section Bodies

/-- What can be read one by one can be read together. -/
private theorem mapM_map_eq_some {α β : Type} {f : α → β} {g : β → Option α} {l : List α}
    (h : ∀ a ∈ l, g (f a) = some a) : (l.map f).mapM g = some l := by
  induction l with
  | nil => rfl
  | cons a rest ih =>
      obtain ⟨ha, hrest⟩ := List.forall_mem_cons.mp h
      rw [List.map_cons, List.mapM_cons, ha, ih hrest]
      rfl

/-- The arguments of a formatting call are there, and are parameters. -/
def Body.WellFormed (arity : Nat) : Body → Prop
  | .plain _ => True
  | .filled _ arguments => arguments ≠ [] ∧ ∀ a ∈ arguments, a.position < arity

/-- A body is read back from its statement. -/
theorem Body.read?_statement {b : Body} {arity : Nat} (h : b.WellFormed arity) :
    Body.read? (parameterNames arity) b.statement.toList = some b := by
  cases b with
  | plain text =>
      rw [Body.statement, String.toList_append, Body.read?, isPrefixOf?_append]
      simp only [Option.bind_eq_bind, Option.bind_some, readLiteral?_literal_alone, if_true,
        String.ofList_toList]
      rfl
  | filled text arguments =>
      obtain ⟨hne, hpositions⟩ := h
      obtain ⟨a, others, rfl⟩ := List.exists_cons_of_ne_nil hne
      have hitems : items (", ".intercalate ((a :: others).map Argument.expression)).toList =
          (a.expression.toList, others.map fun a' => a'.expression.toList) := by
        rw [String.toList_intercalate, List.map_map, List.map_cons]
        refine items_intercalate fun item hitem => ?_
        rcases List.mem_cons.mp hitem with rfl | hitem
        · exact a.comma_not_mem_expression
        · obtain ⟨a', -, rfl⟩ := List.mem_map.mp hitem
          exact a'.comma_not_mem_expression
      have hread : (a.expression.toList :: others.map fun a' => a'.expression.toList).mapM
          (Argument.read? (parameterNames arity)) = some (a :: others) :=
        mapM_map_eq_some (l := a :: others) fun a' ha' =>
          Argument.read?_expression (hpositions a' ha')
      have hcall : ".format(".toList ++ ((", ".intercalate ((a :: others).map
          Argument.expression)).toList ++ ")".toList) ≠ [] := by
        simp
      rw [Body.statement, String.toList_append, String.toList_append, String.toList_append,
        String.toList_append, List.append_assoc, List.append_assoc, List.append_assoc,
        Body.read?, isPrefixOf?_append]
      simp only [Option.bind_eq_bind, Option.bind_some, readLiteral?_literal, if_neg hcall,
        between?_append, hitems, hread, String.ofList_toList]
      rfl

end Bodies

section Cases

/-- The line that opens a case. -/
def Case.pattern (c : Case) : String :=
  "case Lang(" ++ literal c.language ++ ", " ++ (match c.region with
    | some region => literal region
    | none => "_") ++ "):"

private theorem Case.indent_lines_append (c : Case) (rest : List Line) :
    indent (indent (c.lines ++ rest)) =
      ⟨2, c.pattern⟩ :: ⟨3, c.body.statement⟩ :: indent (indent rest) := rfl

/-- The language and the region of a case are read back from its pattern. -/
theorem Case.readPattern?_pattern (c : Case) :
    Case.readPattern? c.pattern.toList = some (c.language, c.region) := by
  obtain ⟨language, region, body⟩ := c
  rw [Case.pattern, String.toList_append, String.toList_append, String.toList_append,
    String.toList_append, List.append_assoc, List.append_assoc, List.append_assoc,
    ← List.append_assoc ", ".toList, ← List.append_assoc (literal language).toList,
    Case.readPattern?, between?_append]
  cases region with
  | none =>
      simp only [Option.bind_eq_bind, Option.bind_some, readLiteral?_literal, isPrefixOf?_append,
        String.ofList_toList]
      rfl
  | some region =>
      have hliteral := readLiteral?_literal_alone region
      have hmark : (literal region).toList ≠ ['_'] := by
        intro h
        rw [h] at hliteral
        cases hliteral
      simp only [Option.bind_eq_bind, Option.bind_some, readLiteral?_literal, isPrefixOf?_append,
        if_neg hmark, hliteral, if_true, String.ofList_toList]
      rfl

/-- No case is taken for the default. -/
theorem Case.pattern_ne_default (c : Case) : c.pattern ≠ "case _:" := by
  intro h
  have hread := c.readPattern?_pattern
  rw [h] at hread
  cases hread

/-- The cases of a function and its default are read back from their lines. -/
theorem readCases?_lines {cases : List Case} {default : Body} {arity : Nat}
    (hcases : ∀ c ∈ cases, c.body.WellFormed arity) (hdefault : default.WellFormed arity) :
    readCases? (parameterNames arity) (indent (indent (cases.flatMap Case.lines ++
      line "case _:" :: indent [line default.statement]))) = some (cases, default) := by
  induction cases with
  | nil =>
      change readCases? _ [⟨2, "case _:"⟩, ⟨3, default.statement⟩] = _
      rw [readCases?, if_pos ⟨rfl, rfl⟩, Body.read?_statement hdefault]
      rfl
  | cons c rest ih =>
      obtain ⟨hc, hrest⟩ := List.forall_mem_cons.mp hcases
      rw [List.flatMap_cons, List.append_assoc, Case.indent_lines_append, readCases?,
        if_pos ⟨rfl, rfl⟩, Body.read?_statement hc]
      simp only [Option.bind_eq_bind, Option.bind_some, if_neg c.pattern_ne_default,
        c.readPattern?_pattern, ih hrest]
      rfl

end Cases

section Functions

/-- A function has a name that ends before its parameters, and all its bodies can be read. -/
structure Function.WellFormed (f : Function) : Prop where
  identifier : '(' ∉ f.identifier.toList
  cases : ∀ c ∈ f.cases, c.body.WellFormed f.arity
  default : f.default.WellFormed f.arity

/-- The names of the parameters are read back. -/
theorem readParameters?_parameters (f : Function) :
    readParameters? f.parameters.toList = some (parameterNames f.arity) := by
  have hitems : items f.parameters.toList = ("lang: Lang".toList,
      (parameterNames f.arity).map (· ++ ": object".toList) ++ [['/']]) := by
    have hmap : ("lang: Lang" :: (List.range f.arity).map (fun position =>
        argumentName position ++ ": object") ++ ["/"]).map String.toList =
        "lang: Lang".toList ::
          ((parameterNames f.arity).map (· ++ ": object".toList) ++ [['/']]) := by
      simp [parameterNames, Function.comp_def]
    rw [Function.parameters, String.toList_intercalate, hmap]
    refine items_intercalate fun item hitem => ?_
    simp only [parameterNames, List.map_map, List.mem_cons, List.mem_append, List.mem_map,
      List.not_mem_nil, or_false] at hitem
    rcases hitem with rfl | ⟨position, -, rfl⟩ | rfl
    · decide
    · rw [Function.comp, List.mem_append, not_or]
      exact ⟨comma_not_mem_argumentName position, by decide⟩
    · decide
  have hread : ((parameterNames f.arity).map (· ++ ": object".toList)).mapM
      (between? [] ": object".toList) = some (parameterNames f.arity) :=
    mapM_map_eq_some fun name _ => between?_append [] name _
  rw [readParameters?, hitems]
  simp only [List.getLast?_concat, List.dropLast_concat, and_self, if_true, hread]

theorem Function.lines_eq (f : Function) : f.lines =
    ⟨0, "def " ++ f.identifier ++ "(" ++ f.parameters ++ ") -> str:"⟩ ::
      ⟨1, literal ("Translation of [" ++ f.key ++ "].")⟩ :: ⟨1, "match lang:"⟩ ::
      indent (indent (f.cases.flatMap Case.lines ++
        line "case _:" :: indent [line f.default.statement])) := rfl

/-- A function is read back from its lines. -/
theorem Function.read?_lines {f : Function} (h : f.WellFormed) :
    Function.read? f.lines = some f := by
  have hsignature : ("def " ++ f.identifier ++ "(" ++ f.parameters ++ ") -> str:").toList =
      "def ".toList ++ ((f.identifier.toList ++ '(' :: f.parameters.toList) ++
        ") -> str:".toList) := by
    simp [String.toList_append]
  have hname : ∀ c ∈ f.identifier.toList, decide (c ≠ '(') = true := fun c hc =>
    decide_eq_true fun he => h.identifier (he ▸ hc)
  have hidentifier : (f.identifier.toList ++ '(' :: f.parameters.toList).takeWhile (· ≠ '(') =
      f.identifier.toList := by
    rw [List.takeWhile_append_of_pos hname]
    simp
  have hparameters : ((f.identifier.toList ++ '(' :: f.parameters.toList).dropWhile
      (· ≠ '(')).tail = f.parameters.toList := by
    rw [List.dropWhile_append_of_pos hname]
    simp
  have htitle := readLiteral?_literal_alone ("Translation of [" ++ f.key ++ "].")
  rw [String.toList_append, String.toList_append, List.append_assoc] at htitle
  rw [Function.lines_eq, Function.read?, if_pos ⟨rfl, rfl, rfl⟩]
  simp only [hsignature, between?_append, Option.bind_eq_bind, Option.bind_some, hparameters,
    readParameters?_parameters, htitle, readCases?_lines h.cases h.default, if_true, hidentifier,
    String.ofList_toList, length_parameterNames]
  rfl

end Functions

end Phrasebook.Generated
