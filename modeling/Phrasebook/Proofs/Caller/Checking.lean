import Phrasebook.Proofs.Caller.Lines
import Phrasebook.Proofs.Caller.Reference
import Phrasebook.Proofs.Order

/-!
# Checking callers

All callers are read before a reference of any of them is judged. So a caller that cannot be used
ends the check with its own error, and the first such caller wins over every reference. If all
callers can be used, the check fails exactly if one of them takes a name that the module does not
have. The failure lists these names once each, in the order in which they are first taken, and
stands at the first of the references to them.
-/

namespace Phrasebook

/-- Leaving out repetitions keeps the order in which the elements of a list first occur, also after
some of them are left out altogether. -/
private theorem pairwise_idxOf_eraseDups_filter {α : Type} [BEq α] [LawfulBEq α] (p : α → Bool)
    (l : List α) : (l.filter p).eraseDups.Pairwise fun a b => l.idxOf a < l.idxOf b := by
  induction l generalizing p with
  | nil => simp
  | cons x rest ih =>
      have hbehind (p : α → Bool) (hx : p x = false) :
          (rest.filter p).eraseDups.Pairwise fun a b =>
            (x :: rest).idxOf a < (x :: rest).idxOf b := by
        have hne {a : α} (ha : a ∈ (rest.filter p).eraseDups) : x ≠ a := by
          rintro rfl
          simp [hx] at ha
        refine (ih p).imp_of_mem fun ha hb hab => ?_
        rw [List.idxOf_cons_ne _ (hne ha), List.idxOf_cons_ne _ (hne hb)]
        omega
      cases hx : p x with
      | false =>
          rw [List.filter_cons_of_neg (by simp [hx])]
          exact hbehind p hx
      | true =>
          rw [List.filter_cons_of_pos hx, List.eraseDups_cons, List.filter_filter]
          refine .cons (fun b hb => ?_) (hbehind _ (by simp))
          have hne : x ≠ b := by
            rintro rfl
            simp at hb
          rw [List.idxOf_cons_self, List.idxOf_cons_ne _ hne]
          omega

namespace CallerSource

/-- The text of a caller: the given one, or that of its file. -/
inductive Holds (store : Store) : CallerSource → String → Prop
  | text (content : String) : Holds store (.text content) content
  | file {path : Path} {characters : List Char} (h : Source.fileText store path = .ok characters) :
      Holds store (.file path) (String.ofList characters)

/-- The error of a caller that cannot be used: its file cannot be read, or the parser refuses its
text. -/
inductive Unusable (parser : Caller.Parser) (store : Store) : CallerSource → Error → Prop
  | unreadable {path : Path} {failure : ReadFailure}
      (h : Source.fileText store path = .error failure) :
      Unusable parser store (.file path) (.fault (.referenceSourceUnreadable path.text failure))
  | refused {source : CallerSource} {text : String} {refusal : CallerRefusal}
      (htext : source.Holds store text) (h : parser text = .error refusal) :
      Unusable parser store source (.caller refusal)

/-- The references in a caller at a position of a list are those of the tree of its text. -/
def Finds (parser : Caller.Parser) (store : Store) (modules : List String) (position : Nat)
    (source : CallerSource) (references : List Reference) : Prop :=
  ∃ text tree, source.Holds store text ∧ parser text = .ok tree ∧
    references = tree.references modules (source.label position)

variable {parser : Caller.Parser} {store : Store} {modules : List String} {position : Nat}
  {source : CallerSource}

/-- The references in a caller with a text are looked for in the text. -/
theorem references_of_holds {text : String} (h : source.Holds store text) :
    source.references parser store modules position =
      liftM (Caller.findReferences text modules (source.label position) parser) := by
  cases h with
  | text content => rfl
  | file h =>
      rw [references, content, h]
      rfl

/-- A caller that cannot be used yields its error instead of references, wherever it stands. -/
theorem references_of_unusable {e : Error} (h : source.Unusable parser store e) :
    source.references parser store modules position = .error e := by
  cases h with
  | unreadable h =>
      rw [references, content, h]
      rfl
  | refused htext h =>
      rw [references_of_holds htext, Caller.findReferences, h]
      rfl

private theorem not_unusable_of_references {references : List Reference}
    (h : source.references parser store modules position = .ok references) (e : Error) :
    ¬ source.Unusable parser store e := by
  intro hunusable
  rw [references_of_unusable hunusable] at h
  cases h

private theorem exists_holds (h : ∀ e, ¬ source.Unusable parser store e) :
    ∃ text, source.Holds store text := by
  cases source with
  | text content => exact ⟨content, .text content⟩
  | file path =>
      cases hread : Source.fileText store path with
      | ok characters => exact ⟨_, .file hread⟩
      | error failure => exact absurd (.unreadable hread) (h _)

/-- A caller that can be used yields its references. -/
theorem exists_finds (modules : List String) (position : Nat)
    (h : ∀ e, ¬ source.Unusable parser store e) :
    ∃ references, source.Finds parser store modules position references ∧
      source.references parser store modules position = .ok references := by
  obtain ⟨text, htext⟩ := exists_holds h
  cases hparse : parser text with
  | error refusal => exact absurd (.refused htext hparse) (h _)
  | ok tree =>
      refine ⟨_, ⟨text, tree, htext, hparse, rfl⟩, ?_⟩
      rw [references_of_holds htext, Caller.findReferences, hparse]
      rfl

/-- The references of callers that can all be used are those of each in turn. -/
theorem exists_allReferences {callers : List CallerSource}
    (h : ∀ source ∈ callers, ∀ e, ¬ source.Unusable parser store e) (position : Nat) :
    ∃ found, List.Forall₂ (fun caller references =>
        caller.1.Finds parser store modules caller.2 references) (callers.zipIdx position) found ∧
      allReferences parser store modules position callers = .ok found.flatten := by
  induction callers generalizing position with
  | nil => exact ⟨[], .nil, rfl⟩
  | cons source rest ih =>
      obtain ⟨hsource, hrest⟩ := List.forall_mem_cons.mp h
      obtain ⟨references, hfinds, href⟩ := exists_finds modules position hsource
      obtain ⟨found, hfound, hall⟩ := ih hrest (position + 1)
      refine ⟨references :: found, .cons hfinds hfound, ?_⟩
      rw [allReferences, href, hall]
      rfl

/-- The first caller that cannot be used ends the search with its error. -/
theorem allReferences_of_unusable {before : List CallerSource}
    (hbefore : ∀ s ∈ before, ∀ e, ¬ s.Unusable parser store e) {e : Error}
    (h : source.Unusable parser store e) (after : List CallerSource) (position : Nat) :
    allReferences parser store modules position (before ++ source :: after) = .error e := by
  induction before generalizing position with
  | nil =>
      rw [List.nil_append, allReferences, references_of_unusable h]
      rfl
  | cons s rest ih =>
      obtain ⟨hs, hrest⟩ := List.forall_mem_cons.mp hbefore
      obtain ⟨references, -, href⟩ := exists_finds modules position hs
      rw [List.cons_append, allReferences, href, ih hrest]
      rfl

/-- References that are found with a parser that counts lines from one have a place that can be
reported. -/
theorem Finds.exists_span (hparser : parser.Counted) {references : List Reference}
    (h : source.Finds parser store modules position references) {r : Reference}
    (hr : r ∈ references) : ∃ line : Nat, r.line = line ∧ r.span = .ok ⟨r.source, some line⟩ := by
  obtain ⟨text, tree, -, hparse, rfl⟩ := h
  exact Caller.exists_span (hparser text tree hparse) hr

end CallerSource

namespace Catalog

/-- The module of a catalog does not have a name. -/
def Lacks (c : Catalog) (name : String) : Prop :=
  name ∉ c.identifiers ∧ name ∉ Key.reserved ∧ ¬ "__".toList <+: name.toList

theorem offers_eq_false_iff {c : Catalog} {name : String} :
    c.offers name = false ↔ c.Lacks name := by
  rw [offers, Bool.or_eq_false_iff, Bool.or_eq_false_iff, and_assoc, Lacks]
  simp only [← Bool.not_eq_true, List.contains_iff_mem, List.isPrefixOf_iff_prefix]
  rfl

/-- Names and a place report the references to names that the module of a catalog does not have:
each such name once, in the order of the first references to them, and the place of the first. -/
structure Reports (c : Catalog) (references : List Reference) (names : List String)
    (span : Option Span) : Prop where
  nodup : names.Nodup
  mem_iff : ∀ name, name ∈ names ↔ c.Lacks name ∧ ∃ r ∈ references, r.name = name
  ordered : names.Pairwise fun a b =>
    (references.map Reference.name).idxOf a < (references.map Reference.name).idxOf b
  located : ∃ before after, ∃ r : Reference, references = before ++ r :: after ∧
    (∀ s ∈ before, ¬ c.Lacks s.name) ∧ c.Lacks r.name ∧
    ∃ line : Nat, r.line = line ∧ span = some ⟨r.source, some line⟩

variable {c : Catalog} {references : List Reference}

theorem checkReferences_eq_ok (h : ∀ r ∈ references, ¬ c.Lacks r.name) :
    c.checkReferences references = .ok () := by
  have hunknown : references.filter (fun r => !c.offers r.name) = [] := by
    rw [List.filter_eq_nil_iff]
    intro r hr
    rw [Bool.not_eq_true', offers_eq_false_iff]
    exact h r hr
  rw [checkReferences, hunknown]

/-- References to names that the module of a catalog does not have are reported. -/
theorem exists_reports
    (hspan : ∀ r ∈ references, ∃ line : Nat, r.line = line ∧ r.span = .ok ⟨r.source, some line⟩)
    (h : ∃ r ∈ references, c.Lacks r.name) :
    ∃ names span, c.checkReferences references = .error (.fault (.keyUnresolved names span)) ∧
      c.Reports references names span := by
  obtain ⟨r, hr, hlacks⟩ := h
  have hmem : r ∈ references.filter fun r => !c.offers r.name := by
    rw [List.mem_filter, Bool.not_eq_true', offers_eq_false_iff]
    exact ⟨hr, hlacks⟩
  have hnames : (references.filter fun r => !c.offers r.name).map Reference.name =
      (references.map Reference.name).filter fun name => !c.offers name := by
    rw [List.filter_map]
    rfl
  cases hunknown : references.filter fun r => !c.offers r.name with
  | nil => exact absurd (hunknown ▸ hmem) List.not_mem_nil
  | cons first rest =>
      obtain ⟨before, after, rfl, hbefore, hfirst, -⟩ := List.filter_eq_cons_iff.mp hunknown
      obtain ⟨line, hline, hplace⟩ := hspan first (by simp)
      refine ⟨((first :: rest).map Reference.name).eraseDups, some ⟨first.source, some line⟩, ?_,
        ?_, fun name => ?_, ?_, ?_⟩
      · rw [checkReferences, hunknown]
        dsimp only
        rw [hplace]
        rfl
      · exact nodup_eraseDups _
      · rw [List.mem_eraseDups, ← hunknown, hnames, List.mem_filter, Bool.not_eq_true',
          offers_eq_false_iff, List.mem_map, and_comm]
      · rw [← hunknown, hnames]
        exact pairwise_idxOf_eraseDups_filter _ _
      · refine ⟨before, after, first, rfl, fun s hs => ?_, ?_, line, hline, rfl⟩
        · rw [← offers_eq_false_iff, ← Bool.not_eq_true']
          exact hbefore s hs
        · rw [← offers_eq_false_iff, ← Bool.not_eq_true']
          exact hfirst

/-- The outcome of a check of callers. The first caller that cannot be used ends it with its error,
whatever the callers refer to. If all can be used, the references found in them stand in the order
of the callers and of their places. The check then refuses names exactly if one of the references is
to a name that the module does not have, and reports these references; else it succeeds. This holds
for every parser that counts lines from one. -/
theorem checkCallers_first_unusable_or_reports {parser : Caller.Parser}
    (hparser : parser.Counted) (c : Catalog) (store : Store) (callers : List CallerSource)
    (modules : List String) :
    (∀ before source after e, callers = before ++ source :: after →
      (∀ s ∈ before, ∀ e', ¬ s.Unusable parser store e') → source.Unusable parser store e →
      c.checkCallers store callers modules parser = .error e) ∧
    ((∀ source ∈ callers, ∀ e, ¬ source.Unusable parser store e) →
      ∃ found, List.Forall₂ (fun caller references =>
          caller.1.Finds parser store modules caller.2 references) (callers.zipIdx 1) found ∧
        (∀ references ∈ found, references.Pairwise fun a b =>
          a.line < b.line ∨ a.line = b.line ∧ a.column ≤ b.column) ∧
        ((∃ names span, c.checkCallers store callers modules parser =
            .error (.fault (.keyUnresolved names span))) ↔
          ∃ r ∈ found.flatten, c.Lacks r.name) ∧
        ((∀ r ∈ found.flatten, ¬ c.Lacks r.name) →
          c.checkCallers store callers modules parser = .ok ()) ∧
        ∀ names span, c.checkCallers store callers modules parser =
            .error (.fault (.keyUnresolved names span)) →
          c.Reports found.flatten names span) := by
  constructor
  · rintro before source after e rfl hbefore hsource
    rw [checkCallers, CallerSource.allReferences_of_unusable hbefore hsource]
    rfl
  intro husable
  obtain ⟨found, hfound, hall⟩ := CallerSource.exists_allReferences husable 1
  have hcheck : c.checkCallers store callers modules parser = c.checkReferences found.flatten := by
    rw [checkCallers, hall]
    rfl
  have hspan : ∀ r ∈ found.flatten, ∃ line : Nat,
      r.line = line ∧ r.span = .ok ⟨r.source, some line⟩ := by
    intro r hr
    obtain ⟨references, hreferences, hr⟩ := List.mem_flatten.mp hr
    obtain ⟨caller, -, hfinds⟩ := exists_left_of_forall₂ hfound hreferences
    exact hfinds.exists_span hparser hr
  have hsome {names : List String} {span : Option Span}
      (h : c.checkCallers store callers modules parser =
        .error (.fault (.keyUnresolved names span))) :
      ∃ r ∈ found.flatten, c.Lacks r.name := by
    by_contra hnone
    rw [hcheck, checkReferences_eq_ok fun r hr hlacks => hnone ⟨r, hr, hlacks⟩] at h
    cases h
  refine ⟨found, hfound, fun references hreferences => ?_,
    ⟨fun ⟨names, span, h⟩ => hsome h, fun h => ?_⟩, fun h => ?_, fun names span h => ?_⟩
  · obtain ⟨caller, -, text, tree, -, -, rfl⟩ := exists_left_of_forall₂ hfound hreferences
    exact Caller.pairwise_references modules _ tree
  · obtain ⟨names, span, h, -⟩ := exists_reports hspan h
    exact ⟨names, span, hcheck.trans h⟩
  · rw [hcheck, checkReferences_eq_ok h]
  · obtain ⟨names', span', h', hreports⟩ := exists_reports hspan (hsome h)
    cases h.symm.trans (hcheck.trans h')
    exact hreports

/-- A catalog of one message. -/
def hello : Catalog := ⟨[⟨"hello", "hello", ⟨⟨"en", none⟩, ⟨[]⟩, none⟩, []⟩],
  .ofList [⟨"en", none⟩], .firstListed⟩

/-- A store with one caller. -/
def desk : Store :=
  let caller := "from i18n import apple, Lang, melon\n"
  { nodes := [(["menu.py"], .file (Text.encodeUtf8 caller.toList))] }

/-- Callers that take names that a module has and others, some of them repeatedly. -/
def crowd : List CallerSource := [
  .text "import i18n\ni18n.hello\ni18n.zebra(i18n.apple)\n",
  .file (Path.ofText "menu.py"),
  .text "from i18n import zebra, __doc__, kiwi\n"]

private theorem not_unusable_of_mem_crowd :
    ∀ source ∈ crowd, ∀ e, ¬ source.Unusable Caller.parse desk e := by
  have hread : ∀ source ∈ crowd,
      (source.references Caller.parse desk ["i18n"] 1).toOption.isSome = true := by decide +kernel
  intro source hsource
  obtain ⟨references, h⟩ := Option.isSome_iff_exists.mp (hread source hsource)
  exact CallerSource.not_unusable_of_references (toOption_eq_some_iff.mp h)

theorem checkCallers_crowd :
    hello.checkCallers desk (crowd ++ .file (Path.ofText "lost.py") :: crowd) ["i18n"] =
      .error (.fault (.referenceSourceUnreadable "lost.py" (.notFound "lost.py"))) ∧
    hello.checkCallers desk (crowd ++ .text "(" :: [.file (Path.ofText "lost.py")]) ["i18n"] =
      .error (.caller .grammar) ∧
    hello.checkCallers desk crowd ["i18n"] = .error (.fault (.keyUnresolved
      ["zebra", "apple", "melon", "kiwi"] (some ⟨"<string #1>", some 3⟩))) ∧
    ∃ found, List.Forall₂ (fun caller references =>
        caller.1.Finds Caller.parse desk ["i18n"] caller.2 references) (crowd.zipIdx 1) found ∧
      hello.Reports found.flatten ["zebra", "apple", "melon", "kiwi"]
        (some ⟨"<string #1>", some 3⟩) := by
  have hlost : Source.fileText desk (Path.ofText "lost.py") = .error (.notFound "lost.py") := by
    decide +kernel
  have hopen : Caller.parse "(" = .error .grammar := by decide +kernel
  have hcheck : hello.checkCallers desk crowd ["i18n"] = .error (.fault (.keyUnresolved
      ["zebra", "apple", "melon", "kiwi"] (some ⟨"<string #1>", some 3⟩))) := by
    decide +kernel
  have houtcome (callers : List CallerSource) :=
    checkCallers_first_unusable_or_reports Caller.counted_parse hello desk callers ["i18n"]
  refine ⟨?_, ?_, hcheck, ?_⟩
  · exact (houtcome _).1 crowd _ crowd _ rfl not_unusable_of_mem_crowd (.unreadable hlost)
  · exact (houtcome _).1 crowd _ _ _ rfl not_unusable_of_mem_crowd (.refused (.text "(") hopen)
  · obtain ⟨found, hfound, -, -, -, hreports⟩ := (houtcome crowd).2 not_unusable_of_mem_crowd
    exact ⟨found, hfound, hreports _ _ hcheck⟩

end Catalog

end Phrasebook
