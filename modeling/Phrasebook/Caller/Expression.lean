import Phrasebook.Caller.Token
import Phrasebook.Caller.Tree

/-!
# Expressions of callers

The grammar of expressions over tokens. Operators of all ranks are read alike, since only the parts
of an expression matter; it is recorded whether an expression can be assigned to. Every function
takes the number of steps that it may still go down.
-/

namespace Phrasebook.Caller

/-- Reads tokens from the front of a list, or refuses them. -/
abbrev Rule := StateT (List Token) (Except CallerRefusal)

/-- What can be assigned to an expression. -/
inductive Target
  | none
  | place
  /-- Several values, some of which may be gathered by a star. -/
  | sequence (star : Bool)
  deriving DecidableEq, Repr

structure Parsed where
  tree : Tree
  target : Target := .none
  starred : Bool := false

/-- An expression that is no name, no attribute and no target. -/
def Parsed.value (tree : Tree) : Parsed := ⟨.join tree .empty, .none, false⟩

/-- A display of elements, to which as many values can be assigned. -/
def Parsed.display (elements : List Parsed) : Parsed :=
  let target := if elements.all (·.target != .none) then
      Target.sequence (elements.any fun e => e.starred || e.target == .sequence true)
    else .none
  ⟨.join (.ofList (elements.map Parsed.tree)) .empty, target, false⟩

namespace Rule

def peek : Rule Token := do return (← get).headD ⟨.finish, "", 1, 0⟩

def peekSecond : Rule Token := do return (← get).tail.headD ⟨.finish, "", 1, 0⟩

def skip : Rule Unit := modify List.tail

def refuse {α : Type} : Rule α := do
  match (← peek).kind with
  | .bad refusal _ => throw refusal
  | .indent => throw .indentation
  | .dedent => throw .indentation
  | _ => throw .grammar

def sees (text : String) : Rule Bool := do return (← peek).is text

def seesAny (texts : List String) : Rule Bool := do return texts.any (← peek).is

def accept (text : String) : Rule Bool := do
  if ← sees text then
    skip
    return true
  else return false

def acceptIf (allowed : Bool) (text : String) : Rule Bool :=
  if allowed then accept text else return false

def acceptAny (texts : List String) : Rule Bool := do
  if ← seesAny texts then
    skip
    return true
  else return false

def expect (text : String) : Rule Unit := do
  if ← sees text then skip else refuse

def name : Rule String := do
  let token ← peek
  if token.kind = .name then
    skip
    return token.text
  else refuse

/-- Whether a name is next that a mark follows. -/
def seesNameThen (mark : String) : Rule Bool := do
  return (← peek).kind == .name && (← peekSecond).is mark

/-- Tries a rule, and another one from the same place if it refuses. -/
def orElse {α : Type} (first second : Rule α) : Rule α := fun tokens =>
  match first tokens with
  | .ok result => .ok result
  | .error _ => second tokens

/-- Goes past the strings that stand side by side, which must be of one kind and sound. -/
def strings (bytes : Bool) : List Token → Except CallerRefusal (List Token)
  | token :: rest =>
    match token.kind with
    | .string b sound => if b = bytes ∧ sound then strings bytes rest else .error .grammar
    | _ => .ok (token :: rest)
  | [] => .ok []

end Rule

open Rule

structure Parameters where
  any : Bool := false
  optional : Bool := false
  slash : Bool := false
  star : Bool := false
  /-- Whether a star still waits for a parameter by name. -/
  bareStar : Bool := false

/-- The marks and keywords between operands that need no other form. -/
def arithmeticMarks : List String :=
  ["|", "^", "&", "<<", ">>", "+", "-", "*", "/", "//", "%", "@", "**"]

def comparisonMarks : List String := ["==", "!=", "<", ">", "<=", ">="]

def acceptComparison : Rule Bool := do
  if ← acceptAny comparisonMarks then return true
  else if ← accept "in" then return true
  else if ← accept "is" then
    let _ ← accept "not"
    return true
  else if (← sees "not") && (← peekSecond).is "in" then
    skip
    skip
    return true
  else return false

/-- Whether the next token can start an expression, possibly with a star. -/
def seesExpression : Rule Bool := do
  let token ← peek
  match token.kind with
  | .name => return true
  | .number => return true
  | .string .. => return true
  | .keyword => return ["True", "False", "None", "lambda", "not", "await"].contains token.text
  | .mark => return ["(", "[", "\x7b", "-", "+", "~", "*", "..."].contains token.text
  | _ => return false

mutual

/-- A condition, a choice between two expressions or a function without a name. -/
def expression : Nat → Rule Parsed
  | 0 => refuse
  | n + 1 => do
    if ← accept "lambda" then
      let parameters ← parameterList n ":" {}
      expect ":"
      let body ← expression n
      return .value (.join parameters body.tree)
    else
      let first ← disjunction n
      if ← accept "if" then
        let condition ← disjunction n
        expect "else"
        let second ← expression n
        return .value (.join first.tree (.join condition.tree second.tree))
      else return first

/-- Operands of any rank, each after any number of negations. -/
def disjunction : Nat → Rule Parsed
  | 0 => refuse
  | n + 1 => do
    let first ← negation n
    moreOperands n first

/-- An operand after any number of negations. -/
def negation : Nat → Rule Parsed
  | 0 => refuse
  | n + 1 => do
    if ← accept "not" then return .value (← negation n).tree
    else arithmetic n

def moreOperands : Nat → Parsed → Rule Parsed
  | 0, _ => refuse
  | n + 1, left => do
    if ← acceptComparison then
      let right ← arithmetic n
      moreOperands n (.value (.join left.tree right.tree))
    else if ← acceptAny ["and", "or"] then
      let right ← negation n
      moreOperands n (.value (.join left.tree right.tree))
    else return left

def arithmetic : Nat → Rule Parsed
  | 0 => refuse
  | n + 1 => do
    let first ← factor n
    moreFactors n first

def moreFactors : Nat → Parsed → Rule Parsed
  | 0, _ => refuse
  | n + 1, left => do
    if ← acceptAny arithmeticMarks then
      let right ← factor n
      moreFactors n (.value (.join left.tree right.tree))
    else return left

/-- An operand after any number of signs. -/
def factor : Nat → Rule Parsed
  | 0 => refuse
  | n + 1 => do
    if ← acceptAny ["+", "-", "~"] then return .value (← factor n).tree
    else if ← accept "await" then return .value (← primary n).tree
    else primary n

/-- An atom with its attributes, calls and subscripts. -/
def primary : Nat → Rule Parsed
  | 0 => refuse
  | n + 1 => do
    let start ← peek
    let first ← atom n
    trailers n start first

/-- The attributes, calls and subscripts behind an expression with a first token. -/
def trailers : Nat → Token → Parsed → Rule Parsed
  | 0, _, _ => refuse
  | n + 1, start, owner => do
    if ← accept "." then
      let attr ← name
      trailers n start ⟨.attribute owner.tree attr start.line start.column, .place, false⟩
    else if ← accept "(" then
      let arguments ← argumentList n true false false true
      trailers n start (.value (.join owner.tree arguments))
    else if ← accept "[" then
      let subscripts ← subscriptList n
      trailers n start ⟨.join owner.tree subscripts, .place, false⟩
    else return owner

/-- An expression that needs no other one in front of it. -/
def atom : Nat → Rule Parsed
  | 0 => refuse
  | n + 1 => do
    let token ← peek
    match token.kind with
    | .name =>
      skip
      return ⟨.name token.text, .place, false⟩
    | .number =>
      skip
      return .value .empty
    | .string bytes _ =>
      set (← strings bytes (← get))
      return .value .empty
    | _ =>
      if ← acceptAny ["True", "False", "None", "..."] then return .value .empty
      else if ← accept "(" then parenthesis n
      else if ← accept "[" then bracket n
      else if ← accept "\x7b" then brace n
      else refuse

/-- What stands in parentheses: nothing, an expression, a generator or several expressions. -/
def parenthesis : Nat → Rule Parsed
  | 0 => refuse
  | n + 1 => do
    if ← accept ")" then return .display []
    else if ← sees "yield" then
      let value ← yielding n
      expect ")"
      return value
    else
      let first ← element n
      if ← seesAny ["for", "async"] then
        if first.starred then refuse
        let clauses ← clauseList n
        expect ")"
        return .value (.join first.tree clauses)
      else if ← accept "," then
        let rest ← elements n ")"
        expect ")"
        return .display (first :: rest)
      else
        expect ")"
        if first.starred then throw .grammar
        return first

/-- What stands in square brackets: elements, or a comprehension. -/
def bracket : Nat → Rule Parsed
  | 0 => refuse
  | n + 1 => do
    if ← accept "]" then return .display []
    let first ← element n
    if ← seesAny ["for", "async"] then
      if first.starred then refuse
      let clauses ← clauseList n
      expect "]"
      return .value (.join first.tree clauses)
    else
      let rest ← if ← accept "," then elements n "]" else pure []
      expect "]"
      return .display (first :: rest)

/-- What stands in braces: pairs of keys and values, elements, or a comprehension of either. -/
def brace : Nat → Rule Parsed
  | 0 => refuse
  | n + 1 => do
    if ← accept "\x7d" then return .value .empty
    else if ← accept "**" then
      let first ← arithmetic n
      let rest ← morePairs n
      expect "\x7d"
      return .value (.join first.tree rest)
    else
      let named ← seesNameThen ":="
      let first ← element n
      if ← acceptIf (!named && !first.starred) ":" then
        let value ← expression n
        let first := Tree.join first.tree value.tree
        let rest ← if ← seesAny ["for", "async"] then clauseList n else morePairs n
        expect "\x7d"
        return .value (.join first rest)
      else
        let rest ← if ← seesAny ["for", "async"] then
            if first.starred then refuse
            clauseList n
          else if ← accept "," then
            pure (Tree.ofList ((← elements n "\x7d").map Parsed.tree))
          else pure .empty
        expect "\x7d"
        return .value (.join first.tree rest)

def morePairs : Nat → Rule Tree
  | 0 => refuse
  | n + 1 => do
    if ← accept "," then
      if ← sees "\x7d" then return .empty
      else if ← accept "**" then
        let spread ← arithmetic n
        return .join spread.tree (← morePairs n)
      else
        let key ← expression n
        expect ":"
        let value ← expression n
        return .join key.tree (.join value.tree (← morePairs n))
    else return .empty

/-- Elements up to a closing mark, behind a comma. -/
def elements : Nat → String → Rule (List Parsed)
  | 0, _ => refuse
  | n + 1, close => do
    if ← sees close then return []
    let first ← element n
    if ← accept "," then return first :: (← elements n close)
    else return [first]

/-- An expression that may be given a name, or one after a star. -/
def element : Nat → Rule Parsed
  | 0 => refuse
  | n + 1 => do
    if ← accept "*" then return { (← arithmetic n) with starred := true }
    else namedExpression n

def namedExpression : Nat → Rule Parsed
  | 0 => refuse
  | n + 1 => do
    if ← seesNameThen ":=" then
      let target ← name
      expect ":="
      let value ← expression n
      return .value (.join (.name target) value.tree)
    else expression n

def starExpression : Nat → Rule Parsed
  | 0 => refuse
  | n + 1 => do
    if ← accept "*" then return { (← arithmetic n) with starred := true }
    else expression n

/-- One or several expressions, each of which may stand after a star. -/
def starExpressions : Nat → Rule Parsed
  | 0 => refuse
  | n + 1 => do
    let first ← starExpression n
    if ← accept "," then return .display (first :: (← moreStarExpressions n))
    else return first

def moreStarExpressions : Nat → Rule (List Parsed)
  | 0 => refuse
  | n + 1 => do
    if ← seesExpression then
      let first ← starExpression n
      if ← accept "," then return first :: (← moreStarExpressions n)
      else return [first]
    else return []

def yielding : Nat → Rule Parsed
  | 0 => refuse
  | n + 1 => do
    expect "yield"
    if ← accept "from" then return .value (← expression n).tree
    else if ← seesExpression then return .value (← starExpressions n).tree
    else return .value .empty

def loopTargets : Nat → Rule Tree
  | 0 => refuse
  | n + 1 => do
    let targets ← loopTargetList n
    if targets.any (·.target == .none) then throw .grammar
    return .ofList (targets.map Parsed.tree)

def loopTargetList : Nat → Rule (List Parsed)
  | 0 => refuse
  | n + 1 => do
    let _ ← accept "*"
    let first ← arithmetic n
    if ← accept "," then
      if ← sees "in" then return [first]
      else return first :: (← loopTargetList n)
    else return [first]

def clauseList : Nat → Rule Tree
  | 0 => refuse
  | n + 1 => do
    let _ ← accept "async"
    expect "for"
    let targets ← loopTargets n
    expect "in"
    let range ← disjunction n
    let conditions ← conditionList n
    let rest ← if ← seesAny ["for", "async"] then clauseList n else pure .empty
    return .join targets (.join range.tree (.join conditions rest))

def conditionList : Nat → Rule Tree
  | 0 => refuse
  | n + 1 => do
    if ← accept "if" then
      let condition ← disjunction n
      return .join condition.tree (← conditionList n)
    else return .empty

/-- The arguments of a call up to the closing parenthesis: plain ones, then those with a name, then
spread pairs. A generator may stand alone where one is allowed. -/
def argumentList : Nat → (first keyword spread generator : Bool) → Rule Tree
  | 0, _, _, _, _ => refuse
  | n + 1, first, keyword, spread, generator => do
    if ← accept ")" then return .empty
    else if ← accept "**" then
      let value ← expression n
      moreArguments n value.tree keyword true
    else if ← accept "*" then
      if spread then throw .grammar
      let value ← expression n
      moreArguments n value.tree keyword spread
    else if ← seesNameThen "=" then
      skip
      skip
      let value ← expression n
      moreArguments n value.tree true spread
    else
      let value ← namedExpression n
      if ← seesAny ["for", "async"] then
        if !(first && generator) then refuse
        let clauses ← clauseList n
        expect ")"
        return .join value.tree clauses
      else
        if keyword || spread then throw .grammar
        moreArguments n value.tree keyword spread

def moreArguments : Nat → Tree → (keyword spread : Bool) → Rule Tree
  | 0, _, _, _ => refuse
  | n + 1, before, keyword, spread => do
    if ← accept "," then return .join before (← argumentList n false keyword spread false)
    else
      expect ")"
      return before

def subscriptList : Nat → Rule Tree
  | 0 => refuse
  | n + 1 => do
    let first ← subscript n
    if ← accept "," then
      if ← accept "]" then return first
      else return .join first (← subscriptList n)
    else
      expect "]"
      return first

/-- A subscript: an expression, one after a star, or a range with a step. -/
def subscript : Nat → Rule Tree
  | 0 => refuse
  | n + 1 => do
    if ← accept "*" then return (← expression n).tree
    else
      let named ← seesNameThen ":="
      let lower ← if ← sees ":" then pure .empty else pure (← namedExpression n).tree
      if ← acceptIf (!named) ":" then
        let upper ← bound n
        let step ← if ← accept ":" then bound n else pure .empty
        return .join lower (.join upper step)
      else return lower

/-- A bound of a range, which may be missing. -/
def bound : Nat → Rule Tree
  | 0 => refuse
  | n + 1 => do
    if ← seesAny [":", ",", "]"] then return .empty
    else return (← expression n).tree

def parameterList : Nat → String → Parameters → Rule Tree
  | 0, _, _ => refuse
  | n + 1, close, seen => do
    if ← sees close then
      if seen.bareStar then refuse
      return .empty
    else if ← accept "**" then
      if seen.bareStar then throw .grammar
      let annotation ← parameterName n close
      let _ ← accept ","
      if ← sees close then return annotation else refuse
    else if ← accept "*" then
      if seen.star then throw .grammar
      if ← sees "," then
        moreParameters n close .empty { seen with star := true, bareStar := true }
      else
        let annotation ← starParameter n close
        moreParameters n close annotation { seen with star := true }
    else if ← accept "/" then
      if !seen.any || seen.slash || seen.star then throw .grammar
      moreParameters n close .empty { seen with slash := true }
    else
      let annotation ← parameterName n close
      let hasDefault ← accept "="
      if !hasDefault && seen.optional && !seen.star then throw .grammar
      let default ← if hasDefault then pure (← expression n).tree else pure .empty
      moreParameters n close (.join annotation default)
        { seen with any := true, optional := seen.optional || hasDefault, bareStar := false }

def moreParameters : Nat → String → Tree → Parameters → Rule Tree
  | 0, _, _, _ => refuse
  | n + 1, close, before, seen => do
    if ← accept "," then return .join before (← parameterList n close seen)
    else if (← sees close) && !seen.bareStar then return before
    else refuse

/-- The name of a parameter and its annotation, which only a function with a name has. -/
def parameterName : Nat → String → Rule Tree
  | 0, _ => refuse
  | n + 1, close => do
    let _ ← name
    if ← acceptIf (close == ")") ":" then return (← expression n).tree
    else return .empty

def starParameter : Nat → String → Rule Tree
  | 0, _ => refuse
  | n + 1, close => do
    let _ ← name
    if ← acceptIf (close == ")") ":" then return (← starExpression n).tree
    else return .empty

end

end Phrasebook.Caller
