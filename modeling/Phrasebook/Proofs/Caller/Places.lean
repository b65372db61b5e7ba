import Mathlib.Logic.Basic
import Phrasebook.Caller.Statement
import Phrasebook.Proofs.Outcome

/-!
# Places in the tree of a caller

The places in the tree of a program are those of its tokens, or that of the token which is taken to
stand behind the last one. A rule of the grammar keeps a property of places: it reads values with
the property from tokens with the property, and leaves such tokens. Few operations put the rules
together, and each of them gives a rule that keeps the property if its parts do. So this is found
for most rules by instances alone, once it is known of the rules with less steps to go.
-/

namespace Phrasebook.Caller

-- The instance for a rule is as large as the rule is long.
set_option synthInstance.maxSize 100000

/-- Whether all places in a tree have a property of lines and columns. -/
def Tree.AllPlaces (P : Nat → Nat → Prop) : Tree → Prop
  | .empty => True
  | .name _ => True
  | .attribute owner _ line column => owner.AllPlaces P ∧ P line column
  | .imports _ => True
  | .importsFrom _ _ line column => P line column
  | .join first second => first.AllPlaces P ∧ second.AllPlaces P

/-- Values with places. -/
class HasPlaces (α : Type) where
  /-- Whether all places in a value have a property. -/
  All : (Nat → Nat → Prop) → α → Prop

/-- Values without places. -/
class Placeless (α : Type) : Prop

instance (priority := low) {α : Type} [Placeless α] : HasPlaces α := ⟨fun _ _ => True⟩

instance : Placeless Bool := ⟨⟩

instance : Placeless Unit := ⟨⟩

instance : Placeless String := ⟨⟩

instance : Placeless (Option String) := ⟨⟩

instance : Placeless Alias := ⟨⟩

instance : HasPlaces Tree := ⟨Tree.AllPlaces⟩

instance : HasPlaces Parsed := ⟨fun P p => p.tree.AllPlaces P⟩

instance : HasPlaces Token := ⟨fun P token => P token.line token.column⟩

instance {α : Type} [HasPlaces α] : HasPlaces (List α) := ⟨fun P l => ∀ a ∈ l, HasPlaces.All P a⟩

section Values

variable {α : Type} [HasPlaces α] {P : Nat → Nat → Prop}

/-- All places in a value have a property. -/
class Placed (P : Nat → Nat → Prop) (a : α) : Prop where
  all : HasPlaces.All P a

instance {β : Type} [Placeless β] (b : β) : Placed P b := ⟨trivial⟩

instance (a : {a : α // Placed P a}) : Placed P a.val := a.property

instance : Placed P ([] : List α) := ⟨fun _ h => absurd h List.not_mem_nil⟩

instance (a : α) (l : List α) [Placed P a] [hl : Placed P l] : Placed P (a :: l) :=
  ⟨List.forall_mem_cons.mpr ⟨Placed.all, hl.all⟩⟩

instance (l : List α) [hl : Placed P l] : Placed P l.tail :=
  ⟨fun a ha => hl.all a (List.mem_of_mem_tail ha)⟩

instance (token : Token) (l : List Token) [ht : Placed P token] [hl : Placed P l] :
    Placed P (l.headD token) := by
  cases l with
  | nil => exact ht
  | cons first rest => exact ⟨hl.all first (List.mem_cons_self ..)⟩

instance : Placed P Tree.empty := ⟨trivial⟩

instance (text : String) : Placed P (Tree.name text) := ⟨trivial⟩

instance (aliases : List Alias) : Placed P (Tree.imports aliases) := ⟨trivial⟩

instance (owner : Tree) (attr : String) (start : Token) [ho : Placed P owner]
    [hs : Placed P start] : Placed P (Tree.attribute owner attr start.line start.column) :=
  ⟨ho.all, hs.all⟩

instance (source : String) (aliases : List Alias) (start : Token) [hs : Placed P start] :
    Placed P (Tree.importsFrom source aliases start.line start.column) := ⟨hs.all⟩

instance (first second : Tree) [hf : Placed P first] [hs : Placed P second] :
    Placed P (first.join second) := ⟨hf.all, hs.all⟩

instance (p : Parsed) [hp : Placed P p] : Placed P p.tree := ⟨hp.all⟩

instance (tree : Tree) (target : Target) (starred : Bool) [ht : Placed P tree] :
    Placed P (Parsed.mk tree target starred) := ⟨ht.all⟩

instance (l : List Parsed) [hl : Placed P l] : Placed P (l.map Parsed.tree) := by
  constructor
  intro tree htree
  obtain ⟨p, hp, rfl⟩ := List.mem_map.mp htree
  exact hl.all p hp

instance (l : List Tree) [hl : Placed P l] : Placed P (Tree.ofList l) := by
  obtain ⟨hall⟩ := hl
  induction l with
  | nil => exact ⟨trivial⟩
  | cons tree l ih =>
      obtain ⟨htree, hrest⟩ := List.forall_mem_cons.mp hall
      exact ⟨htree, (ih hrest).all⟩

instance (tree : Tree) [Placed P tree] : Placed P (Parsed.value tree) := by
  rw [Parsed.value]
  infer_instance

instance (l : List Parsed) [Placed P l] : Placed P (Parsed.display l) := by
  rw [Parsed.display]
  infer_instance

end Values

section Rules

variable {α β : Type} [HasPlaces α] [HasPlaces β] {P : Nat → Nat → Prop}

/-- A rule keeps a property of places. -/
class Keeps (P : Nat → Nat → Prop) (r : Rule α) : Prop where
  keeps : ∀ tokens a rest, Placed P tokens → r tokens = .ok (a, rest) → Placed P a ∧ Placed P rest

/-- A rule keeps a property if it does so behind what another one reads. -/
theorem Keeps.bind {r : Rule α} {f : α → Rule β} (h : Keeps P r)
    (h' : ∀ a, Placed P a → Keeps P (f a)) : Keeps P (r >>= f) := by
  constructor
  intro tokens b rest htokens hrun
  obtain ⟨⟨a, behind⟩, ha, hb⟩ := bind_eq_ok_iff.mp hrun
  obtain ⟨hplaced, hbehind⟩ := h.keeps tokens a behind htokens ha
  exact (h' a hplaced).keeps behind b rest hbehind hb

instance (r : Rule α) (f : α → Rule β) [h : Keeps P r]
    [h' : ∀ a : {a : α // Placed P a}, Keeps P (f a)] : Keeps P (r >>= f) :=
  h.bind fun a ha => h' ⟨a, ha⟩

instance (a : α) [ha : Placed P a] : Keeps P (pure a : Rule α) := by
  constructor
  rintro tokens _ _ htokens ⟨⟩
  exact ⟨ha, htokens⟩

instance (c : Prop) [Decidable c] (r r' : Rule α) [h : Keeps P r] [h' : Keeps P r'] :
    Keeps P (if c then r else r') := by
  split
  · exact h
  · exact h'

instance (refusal : CallerRefusal) : Keeps P (throw refusal : Rule α) := by
  constructor
  rintro tokens a rest htokens ⟨⟩

instance : Keeps P (get : Rule (List Token)) := by
  constructor
  rintro tokens _ _ htokens ⟨⟩
  exact ⟨htokens, htokens⟩

instance (tokens : List Token) [ht : Placed P tokens] : Keeps P (set tokens : Rule Unit) := by
  constructor
  rintro _ _ _ _ ⟨⟩
  exact ⟨inferInstance, ht⟩

instance (f : List Token → List Token) [h : ∀ l : {l : List Token // Placed P l}, Placed P (f l)] :
    Keeps P (modify f : Rule Unit) := by
  constructor
  rintro tokens _ _ htokens ⟨⟩
  exact ⟨inferInstance, h ⟨tokens, htokens⟩⟩

instance (r r' : Rule α) [h : Keeps P r] [h' : Keeps P r'] : Keeps P (Rule.orElse r r') := by
  constructor
  intro tokens a rest htokens hrun
  rw [Rule.orElse] at hrun
  split at hrun
  · rename_i hfirst
    rw [Except.ok.inj hrun] at hfirst
    exact h.keeps tokens a rest htokens hfirst
  · exact h'.keeps tokens a rest htokens hrun

/-- Going past strings leaves the tokens behind them. -/
private theorem suffix_of_strings {bytes : Bool} {tokens rest : List Token}
    (h : Rule.strings bytes tokens = .ok rest) : rest <:+ tokens := by
  induction tokens with
  | nil =>
      obtain rfl := Except.ok.inj h
      exact List.suffix_rfl
  | cons token tokens ih =>
      rw [Rule.strings] at h
      split at h
      · split at h
        · exact (ih h).trans (List.suffix_cons token tokens)
        · cases h
      · obtain rfl := Except.ok.inj h
        exact List.suffix_rfl

instance (bytes : Bool) (tokens : List Token) [ht : Placed P tokens] :
    Keeps P (liftM (Rule.strings bytes tokens) : Rule (List Token)) := by
  constructor
  intro now behind rest hnow hrun
  obtain ⟨strings, hstrings, hpair⟩ := bind_eq_ok_iff.mp hrun
  obtain ⟨rfl, rfl⟩ := Prod.mk.inj (Except.ok.inj hpair)
  exact ⟨⟨fun a ha => ht.all a ((suffix_of_strings hstrings).subset ha)⟩, hnow⟩

end Rules

section Words

variable {α : Type} [HasPlaces α] {P : Nat → Nat → Prop} [hstart : Fact (P 1 0)]

instance : Placed P (⟨.finish, "", 1, 0⟩ : Token) := ⟨hstart.out⟩

instance : Keeps P Rule.peek := by
  rw [Rule.peek]
  infer_instance

instance : Keeps P Rule.peekSecond := by
  rw [Rule.peekSecond]
  infer_instance

instance : Keeps P Rule.skip := by
  rw [Rule.skip]
  infer_instance

instance : Keeps P (Rule.refuse : Rule α) := by
  rw [Rule.refuse]
  refine Keeps.bind inferInstance fun token _ => ?_
  split <;> infer_instance

instance (text : String) : Keeps P (Rule.sees text) := by
  rw [Rule.sees]
  infer_instance

instance (texts : List String) : Keeps P (Rule.seesAny texts) := by
  rw [Rule.seesAny]
  infer_instance

instance (text : String) : Keeps P (Rule.accept text) := by
  rw [Rule.accept]
  infer_instance

instance (allowed : Bool) (text : String) : Keeps P (Rule.acceptIf allowed text) := by
  rw [Rule.acceptIf]
  infer_instance

instance (texts : List String) : Keeps P (Rule.acceptAny texts) := by
  rw [Rule.acceptAny]
  infer_instance

instance (text : String) : Keeps P (Rule.expect text) := by
  rw [Rule.expect]
  infer_instance

instance : Keeps P Rule.name := by
  rw [Rule.name]
  infer_instance

instance (mark : String) : Keeps P (Rule.seesNameThen mark) := by
  rw [Rule.seesNameThen]
  infer_instance

instance : Keeps P acceptComparison := by
  rw [acceptComparison]
  infer_instance

instance : Keeps P seesExpression := by
  rw [seesExpression]
  refine Keeps.bind inferInstance fun token _ => ?_
  split <;> infer_instance

end Words

section Expressions

variable {P : Nat → Nat → Prop} [hstart : Fact (P 1 0)] {n : Nat}

/-- The rules for expressions keep a property with some steps to go. -/
class KeepsExpressions (P : Nat → Nat → Prop) (n : Nat) : Prop where
  expression : Keeps P (Caller.expression n)
  disjunction : Keeps P (Caller.disjunction n)
  negation : Keeps P (Caller.negation n)
  moreOperands : ∀ left, [Placed P left] → Keeps P (Caller.moreOperands n left)
  arithmetic : Keeps P (Caller.arithmetic n)
  moreFactors : ∀ left, [Placed P left] → Keeps P (Caller.moreFactors n left)
  factor : Keeps P (Caller.factor n)
  primary : Keeps P (Caller.primary n)
  trailers : ∀ start owner, [Placed P start] → [Placed P owner] →
    Keeps P (Caller.trailers n start owner)
  atom : Keeps P (Caller.atom n)
  parenthesis : Keeps P (Caller.parenthesis n)
  bracket : Keeps P (Caller.bracket n)
  brace : Keeps P (Caller.brace n)
  morePairs : Keeps P (Caller.morePairs n)
  elements : ∀ close, Keeps P (Caller.elements n close)
  element : Keeps P (Caller.element n)
  namedExpression : Keeps P (Caller.namedExpression n)
  starExpression : Keeps P (Caller.starExpression n)
  starExpressions : Keeps P (Caller.starExpressions n)
  moreStarExpressions : Keeps P (Caller.moreStarExpressions n)
  yielding : Keeps P (Caller.yielding n)
  loopTargets : Keeps P (Caller.loopTargets n)
  loopTargetList : Keeps P (Caller.loopTargetList n)
  clauseList : Keeps P (Caller.clauseList n)
  conditionList : Keeps P (Caller.conditionList n)
  argumentList : ∀ first keyword spread generator,
    Keeps P (Caller.argumentList n first keyword spread generator)
  moreArguments : ∀ before keyword spread, [Placed P before] →
    Keeps P (Caller.moreArguments n before keyword spread)
  subscriptList : Keeps P (Caller.subscriptList n)
  subscript : Keeps P (Caller.subscript n)
  bound : Keeps P (Caller.bound n)
  parameterList : ∀ close seen, Keeps P (Caller.parameterList n close seen)
  moreParameters : ∀ close before seen, [Placed P before] →
    Keeps P (Caller.moreParameters n close before seen)
  parameterName : ∀ close, Keeps P (Caller.parameterName n close)
  starParameter : ∀ close, Keeps P (Caller.starParameter n close)

attribute [instance] KeepsExpressions.expression KeepsExpressions.disjunction
  KeepsExpressions.negation KeepsExpressions.moreOperands KeepsExpressions.arithmetic
  KeepsExpressions.moreFactors KeepsExpressions.factor KeepsExpressions.primary
  KeepsExpressions.trailers KeepsExpressions.atom KeepsExpressions.parenthesis
  KeepsExpressions.bracket KeepsExpressions.brace KeepsExpressions.morePairs
  KeepsExpressions.elements KeepsExpressions.element KeepsExpressions.namedExpression
  KeepsExpressions.starExpression KeepsExpressions.starExpressions
  KeepsExpressions.moreStarExpressions KeepsExpressions.yielding KeepsExpressions.loopTargets
  KeepsExpressions.loopTargetList KeepsExpressions.clauseList KeepsExpressions.conditionList
  KeepsExpressions.argumentList KeepsExpressions.moreArguments KeepsExpressions.subscriptList
  KeepsExpressions.subscript KeepsExpressions.bound KeepsExpressions.parameterList
  KeepsExpressions.moreParameters KeepsExpressions.parameterName KeepsExpressions.starParameter

/-- A rule with one step more to go is put together from rules that keep the property. -/
instance keepsExpressions (n : Nat) : KeepsExpressions P n := by
  induction n with
  | zero => constructor <;> intros <;> exact inferInstanceAs (Keeps P Rule.refuse)
  | succ n ih =>
      constructor
      case atom =>
        rw [atom]
        refine Keeps.bind inferInstance fun token htoken => ?_
        split <;> infer_instance
      all_goals
        intros
        simp only [expression, disjunction, negation, moreOperands, arithmetic, moreFactors,
          factor, primary, trailers, parenthesis, bracket, brace, morePairs, elements,
          element, namedExpression, starExpression, starExpressions, moreStarExpressions,
          yielding, loopTargets, loopTargetList, clauseList, conditionList, argumentList,
          moreArguments, subscriptList, subscript, bound, parameterList, moreParameters,
          parameterName, starParameter]
        infer_instance

end Expressions

section Statements

variable {P : Nat → Nat → Prop} [hstart : Fact (P 1 0)] {n : Nat}

instance : Keeps P lineEnd := by
  rw [lineEnd]
  infer_instance

instance (n : Nat) : Keeps P (dottedName n) := by
  induction n with
  | zero => exact inferInstanceAs (Keeps P Rule.refuse)
  | succ n ih =>
      rw [dottedName]
      infer_instance

instance : Keeps P asName := by
  rw [asName]
  infer_instance

instance (n : Nat) : Keeps P (moduleAliases n) := by
  induction n with
  | zero => exact inferInstanceAs (Keeps P Rule.refuse)
  | succ n ih =>
      rw [moduleAliases]
      infer_instance

instance (n : Nat) (enclosed : Bool) : Keeps P (nameAliases n enclosed) := by
  induction n with
  | zero => exact inferInstanceAs (Keeps P Rule.refuse)
  | succ n ih =>
      rw [nameAliases]
      infer_instance

instance (n : Nat) : Keeps P (acceptPoints n) := by
  induction n with
  | zero => exact inferInstanceAs (Keeps P Rule.refuse)
  | succ n ih =>
      rw [acceptPoints]
      infer_instance

instance (n : Nat) (start : Token) [Placed P start] :
    Keeps P (importFrom n start.line start.column) := by
  rw [importFrom]
  infer_instance

instance (n : Nat) : Keeps P (nameList n) := by
  induction n with
  | zero => exact inferInstanceAs (Keeps P Rule.refuse)
  | succ n ih =>
      rw [nameList]
      infer_instance

instance (n : Nat) : Keeps P (assignedValue n) := by
  rw [assignedValue]
  infer_instance

instance (n : Nat) (target : Parsed) [ht : Placed P target] : Keeps P (assignments n target) := by
  induction n generalizing target with
  | zero => exact inferInstanceAs (Keeps P Rule.refuse)
  | succ n ih =>
      rw [assignments]
      infer_instance

instance (n : Nat) : Keeps P (expressionStatement n) := by
  rw [expressionStatement]
  infer_instance

instance (n : Nat) : Keeps P (optionalExpressions n) := by
  rw [optionalExpressions]
  infer_instance

instance (n : Nat) : Keeps P (simpleStatement n) := by
  rw [simpleStatement]
  refine Keeps.bind inferInstance fun token htoken => ?_
  split
  · infer_instance
  · split <;> infer_instance

instance (n : Nat) : Keeps P (simpleStatements n) := by
  induction n with
  | zero => exact inferInstanceAs (Keeps P Rule.refuse)
  | succ n ih =>
      rw [simpleStatements]
      infer_instance

instance : Keeps P missingBlock := by
  rw [missingBlock]
  refine Keeps.bind inferInstance fun token _ => Keeps.bind inferInstance fun tokens _ => ?_
  split <;> infer_instance

instance (n : Nat) : Keeps P (contextItem n) := by
  rw [contextItem]
  infer_instance

instance (n : Nat) (enclosed : Bool) : Keeps P (contextItems n enclosed) := by
  induction n with
  | zero => exact inferInstanceAs (Keeps P Rule.refuse)
  | succ n ih =>
      rw [contextItems]
      infer_instance

instance (n : Nat) : Keeps P (contextHead n) := by
  rw [contextHead]
  infer_instance

/-- The rules for statements keep a property with some steps to go. -/
class KeepsStatements (P : Nat → Nat → Prop) (n : Nat) : Prop where
  block : Keeps P (Caller.block n)
  statements : Keeps P (Caller.statements n)
  statement : Keeps P (Caller.statement n)
  conditional : Keeps P (Caller.conditional n)
  otherwise : Keeps P (Caller.otherwise n)
  loop : Keeps P (Caller.loop n)
  handlers : ∀ grouped, Keeps P (Caller.handlers n grouped)
  function : Keeps P (Caller.function n)
  classDefinition : Keeps P (Caller.classDefinition n)
  decorated : Keeps P (Caller.decorated n)

attribute [instance] KeepsStatements.block KeepsStatements.statements KeepsStatements.statement
  KeepsStatements.conditional KeepsStatements.otherwise KeepsStatements.loop
  KeepsStatements.handlers KeepsStatements.function KeepsStatements.classDefinition
  KeepsStatements.decorated

instance keepsStatements (n : Nat) : KeepsStatements P n := by
  induction n with
  | zero => constructor <;> intros <;> exact inferInstanceAs (Keeps P Rule.refuse)
  | succ n ih =>
      constructor
      case handlers =>
        intro grouped
        rw [handlers]
        refine Keeps.bind inferInstance fun found _ => ?_
        split
        · infer_instance
        · -- Behind handlers the rule may end; otherwise a final block must follow.
          dsimp only
          split
          · infer_instance
          · refine Keeps.bind inferInstance fun other hother => ?_
            refine Keeps.bind inferInstance fun last _ => ?_
            split
            · infer_instance
            · refine Keeps.bind inferInstance fun token _ => ?_
              split <;> infer_instance
      all_goals
        simp only [block, statements, statement, conditional, otherwise, loop, function,
          classDefinition, decorated]
        infer_instance

instance (n : Nat) : Keeps P (program n) := by
  induction n with
  | zero => exact inferInstanceAs (Keeps P Rule.refuse)
  | succ n ih =>
      rw [program]
      infer_instance

end Statements

/-- The places in the tree of a caller have every property that those of its tokens have, and the
place that is taken for the end of the text. -/
theorem allPlaces_of_parse {P : Nat → Nat → Prop} (hstart : P 1 0) {text : String} {tree : Tree}
    (htokens : ∀ token ∈ tokens text, P token.line token.column) (h : parse text = .ok tree) :
    tree.AllPlaces P := by
  have : Fact (P 1 0) := ⟨hstart⟩
  obtain ⟨⟨_, rest⟩, hrun, rfl⟩ := map_eq_ok_iff.mp h
  have hkeeps : Keeps P (program (32 * ((tokens text).length + 4))) := inferInstance
  exact (hkeeps.keeps (tokens text) _ rest ⟨htokens⟩ hrun).1.all

end Phrasebook.Caller
