import Phrasebook.Caller.Expression
import Phrasebook.Caller.Scan

/-!
# Statements of callers

The grammar of statements over tokens, and the tree of the text of a caller. The grammar is smaller
than that of the language: a `match` statement is refused, the fields of a formatted string are
passed over, and a name is kept as it is spelled.
-/

namespace Phrasebook.Caller

open Rule

def lineEnd : Rule Unit := do
  if (← peek).kind = .newline then skip else refuse

def dottedName : Nat → Rule String
  | 0 => refuse
  | n + 1 => do
    let first ← name
    if ← accept "." then return first ++ "." ++ (← dottedName n)
    else return first

def asName : Rule (Option String) := do
  if ← accept "as" then return some (← name) else return none

def moduleAliases : Nat → Rule (List Alias)
  | 0 => refuse
  | n + 1 => do
    let source ← dottedName n
    let first : Alias := ⟨source, ← asName⟩
    if ← accept "," then return first :: (← moduleAliases n) else return [first]

/-- Names to import. Inside parentheses a comma may stand at the end. -/
def nameAliases : Nat → Bool → Rule (List Alias)
  | 0, _ => refuse
  | n + 1, enclosed => do
    let imported ← name
    let first : Alias := ⟨imported, ← asName⟩
    if ← accept "," then
      if enclosed && (← sees ")") then return [first]
      else return first :: (← nameAliases n enclosed)
    else return [first]

/-- Goes past the points in front of a module and says whether there are some. -/
def acceptPoints : Nat → Rule Bool
  | 0 => refuse
  | n + 1 => do
    if ← acceptAny [".", "..."] then
      let _ ← acceptPoints n
      return true
    else return false

/-- An import of names from a module, whose first word has a place. -/
def importFrom (n : Nat) (line column : Nat) : Rule Tree := do
  let points ← acceptPoints n
  let source ← if points && (← sees "import") then pure "" else dottedName n
  expect "import"
  if ← accept "*" then return .importsFrom source [⟨"*", none⟩] line column
  else if ← accept "(" then
    let aliases ← nameAliases n true
    expect ")"
    return .importsFrom source aliases line column
  else return .importsFrom source (← nameAliases n false) line column

def nameList : Nat → Rule Unit
  | 0 => refuse
  | n + 1 => do
    let _ ← name
    if ← accept "," then nameList n else return

def assignedValue (n : Nat) : Rule Parsed := do
  if ← sees "yield" then yielding n else starExpressions n

def assignments : Nat → Parsed → Rule Tree
  | 0, _ => refuse
  | n + 1, target => do
    if ← sees "=" then
      if target.target = .none then throw .grammar
      expect "="
      let value ← assignedValue n
      return .join target.tree (← assignments n value)
    else return target.tree

/-- The marks of assignments that keep the old value. -/
def updateMarks : List String :=
  ["+=", "-=", "*=", "/=", "//=", "%=", "@=", "&=", "|=", "^=", ">>=", "<<=", "**="]

def Parsed.isPlace (p : Parsed) : Bool := p.target == .place && !p.starred

/-- An expression, an assignment or an annotation. -/
def expressionStatement (n : Nat) : Rule Tree := do
  let first ← assignedValue n
  if ← sees ":" then
    if !first.isPlace then throw .grammar
    expect ":"
    let annotation ← expression n
    let value ← if ← accept "=" then assignedValue n else pure ⟨.empty, .none, false⟩
    return .join first.tree (.join annotation.tree value.tree)
  else if ← seesAny updateMarks then
    if !first.isPlace then throw .grammar
    skip
    let value ← assignedValue n
    return .join first.tree value.tree
  else assignments n first

def optionalExpressions (n : Nat) : Rule Tree := do
  if ← seesExpression then return (← starExpressions n).tree else return .empty

def simpleStatement (n : Nat) : Rule Tree := do
  let token ← peek
  if token.kind ≠ .keyword then expressionStatement n
  else match token.text with
    | "import" =>
      skip
      return .imports (← moduleAliases n)
    | "from" =>
      skip
      importFrom n token.line token.column
    | "pass" =>
      skip
      return .empty
    | "break" =>
      skip
      return .empty
    | "continue" =>
      skip
      return .empty
    | "return" =>
      skip
      optionalExpressions n
    | "raise" =>
      skip
      if ← seesExpression then
        let raised ← expression n
        let cause ← if ← accept "from" then expression n else pure ⟨.empty, .none, false⟩
        return .join raised.tree cause.tree
      else return .empty
    | "global" =>
      skip
      nameList n
      return .empty
    | "nonlocal" =>
      skip
      nameList n
      return .empty
    | "assert" =>
      skip
      let condition ← expression n
      let message ← if ← accept "," then expression n else pure ⟨.empty, .none, false⟩
      return .join condition.tree message.tree
    | "del" =>
      skip
      let targets ← starExpressions n
      if targets.starred then throw .grammar
      if targets.target = .none ∨ targets.target = .sequence true then throw .grammar
      return targets.tree
    | _ => expressionStatement n

def simpleStatements : Nat → Rule Tree
  | 0 => refuse
  | n + 1 => do
    let first ← simpleStatement n
    if ← accept ";" then
      if (← peek).kind = .newline then
        skip
        return first
      else return .join first (← simpleStatements n)
    else
      lineEnd
      return first

/-- Refuses a line where a block must start, unless the text cannot even be cut to its end. -/
def missingBlock : Rule Tree := do
  match (← peek).kind, (← get).getLast?.map Token.kind with
  | .bad refusal _, _ => throw refusal
  | _, some (.bad refusal true) => throw refusal
  | _, _ => throw .indentation

/-- What the items of a `with` statement give to their blocks. -/
def contextItem (n : Nat) : Rule Tree := do
  let manager ← expression n
  if ← accept "as" then
    let _ ← accept "*"
    let target ← arithmetic n
    if target.target = .none then throw .grammar
    if ← seesAny [",", ")", ":"] then return .join manager.tree target.tree else refuse
  else return manager.tree

/-- Items of a `with` statement. Inside parentheses a comma may stand at the end. -/
def contextItems : Nat → Bool → Rule Tree
  | 0, _ => refuse
  | n + 1, enclosed => do
    let first ← contextItem n
    if ← accept "," then
      if enclosed && (← sees ")") then return first
      else return .join first (← contextItems n enclosed)
    else return first

/-- The head of a `with` statement. Parentheses may enclose all items or be part of the first. -/
def contextHead (n : Nat) : Rule Tree :=
  orElse
    (do
      expect "("
      let items ← contextItems n true
      expect ")"
      expect ":"
      return items)
    (do
      let items ← contextItems n false
      expect ":"
      return items)

mutual

/-- The block of a statement: deeper lines, or statements on the same line. -/
def block : Nat → Rule Tree
  | 0 => refuse
  | n + 1 => do
    if (← peek).kind = .newline then
      skip
      if (← peek).kind = .indent then
        skip
        statements n
      else missingBlock
    else simpleStatements n

def statements : Nat → Rule Tree
  | 0 => refuse
  | n + 1 => do
    let first ← statement n
    if (← peek).kind = .dedent then
      skip
      return first
    else return .join first (← statements n)

def statement : Nat → Rule Tree
  | 0 => refuse
  | n + 1 => do
    if ← accept "if" then conditional n
    else if ← accept "while" then
      let condition ← namedExpression n
      expect ":"
      let body ← block n
      return .join condition.tree (.join body (← otherwise n))
    else if ← accept "for" then loop n
    else if ← accept "try" then
      expect ":"
      let body ← block n
      return .join body (← handlers n none)
    else if ← accept "with" then
      let head ← contextHead n
      return .join head (← block n)
    else if ← accept "def" then function n
    else if ← accept "class" then classDefinition n
    else if ← sees "@" then decorated n
    else if ← accept "async" then
      if ← accept "def" then function n
      else if ← accept "for" then loop n
      else if ← accept "with" then
        let head ← contextHead n
        return .join head (← block n)
      else refuse
    else simpleStatements n

def conditional : Nat → Rule Tree
  | 0 => refuse
  | n + 1 => do
    let condition ← namedExpression n
    expect ":"
    let body ← block n
    let rest ← if ← accept "elif" then conditional n else otherwise n
    return .join condition.tree (.join body rest)

def otherwise : Nat → Rule Tree
  | 0 => refuse
  | n + 1 => do
    if ← accept "else" then
      expect ":"
      block n
    else return .empty

def loop : Nat → Rule Tree
  | 0 => refuse
  | n + 1 => do
    let targets ← loopTargets n
    expect "in"
    let range ← starExpressions n
    expect ":"
    let body ← block n
    return .join targets (.join range.tree (.join body (← otherwise n)))

/-- The handlers behind a guarded block, all for single failures or all for groups of them, as
`grouped` says once there is one. Without any there must be a final block. -/
def handlers : Nat → Option Bool → Rule Tree
  | 0, _ => refuse
  | n + 1, grouped => do
    if ← accept "except" then
      let group ← accept "*"
      if grouped.any (· != group) then throw .grammar
      let head ← if !group && (← sees ":") then pure .empty else do
        let failure ← expression n
        let _ ← asName
        pure failure.tree
      expect ":"
      let body ← block n
      return .join head (.join body (← handlers n (some group)))
    else
      let other ← if grouped.isSome then otherwise n else pure .empty
      if ← accept "finally" then
        expect ":"
        return .join other (← block n)
      else if grouped.isSome then return other
      else match (← peek).kind with
        | .bad refusal _ => throw refusal
        | _ => throw .grammar

def function : Nat → Rule Tree
  | 0 => refuse
  | n + 1 => do
    let _ ← name
    expect "("
    let parameters ← parameterList n ")" {}
    expect ")"
    let result ← if ← accept "->" then pure (← expression n).tree else pure .empty
    expect ":"
    return .join parameters (.join result (← block n))

def classDefinition : Nat → Rule Tree
  | 0 => refuse
  | n + 1 => do
    let _ ← name
    let bases ← if ← accept "(" then argumentList n true false false false else pure .empty
    expect ":"
    return .join bases (← block n)

def decorated : Nat → Rule Tree
  | 0 => refuse
  | n + 1 => do
    expect "@"
    let decorator ← namedExpression n
    lineEnd
    let rest ← if ← sees "@" then decorated n
      else if ← accept "def" then function n
      else if ← accept "class" then classDefinition n
      else if ← accept "async" then do
        expect "def"
        function n
      else refuse
    return .join decorator.tree rest

end

def program : Nat → Rule Tree
  | 0 => refuse
  | n + 1 => do
    if (← peek).kind = .finish then return .empty
    else return .join (← statement n) (← program n)

/-- The tree of the text of a caller. The rules may go down 32 steps for each token. -/
def parse (text : String) : Except CallerRefusal Tree :=
  let tokens := tokens text
  (program (32 * (tokens.length + 4)) tokens).map Prod.fst

end Phrasebook.Caller
