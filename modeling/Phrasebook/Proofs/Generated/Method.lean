import Phrasebook.Generated.Run
import Phrasebook.Proofs.Generated.Reading

/-!
# Methods of generated code

The part of the language of generated code in which the methods of a class are written. Every value
is a text. A method is a block of statements, in which the depth of a line tells what belongs to a
condition; it ends with a text, with a new object or with an error. The reader takes a class with
the tables of its module from lines and refuses what it does not know; the last of several methods
with one name counts.
-/

namespace Phrasebook.Generated

open Code Text

/-- An expression, which denotes a text. -/
inductive Expression
  /-- The value of a name. -/
  | named (name : String)
  /-- A field of the object of the method. -/
  | field (name : String)
  | literal (text : String)
  | lower (e : Expression)
  | upper (e : Expression)
  /-- Two texts, one behind the other. -/
  | append (e e' : Expression)
  deriving DecidableEq, Repr

inductive Condition
  /-- A text is not empty. -/
  | given (e : Expression)
  /-- A text is an entry of a table. -/
  | listed (e : Expression) (table : String)
  | negation (c : Condition)
  /-- Two conditions hold; the second one counts only if the first one does. -/
  | both (c c' : Condition)
  deriving DecidableEq, Repr

inductive MessagePart
  | plain (text : String)
  | quoted (e : Expression)
  deriving DecidableEq, Repr

/-- A statement without a block of its own. -/
inductive Statement
  | assign (names : List String) (values : List Expression)
  /-- Names get what stands before the last mark in a text, the mark, and what stands behind it. -/
  | cut (names : List String) (e : Expression) (mark : Char)
  | store (field : String) (e : Expression)
  /-- The method ends with a text. -/
  | give (e : Expression)
  /-- The method ends with a new object. -/
  | make (arguments : List Expression)
  /-- The method ends with an error. -/
  | fail (kind : String) (message : List MessagePart)
  deriving DecidableEq, Repr

/-- Statements in order. -/
inductive Block
  | done
  | step (s : Statement) (rest : Block)
  /-- A block under a condition, then the others. -/
  | guarded (c : Condition) (body rest : Block)
  deriving DecidableEq, Repr

/-- A parameter of a method or a field of a class, possibly with a default. -/
structure Parameter where
  name : String
  /-- The value if there is no argument. -/
  default : Option String
  deriving DecidableEq, Repr

/-- A method as it is written. -/
structure Method where
  /-- Whether the method belongs to the class and not to its objects. -/
  ofClass : Bool
  /-- The first line behind the word that opens a definition. -/
  signature : List Char
  /-- The lines of the body. -/
  body : List Line
  deriving DecidableEq, Repr

structure Routine where
  /-- The parameters behind the object or the class. -/
  parameters : List Parameter
  body : Block
  deriving DecidableEq, Repr

/-- A class with the tables that its methods use. -/
structure Class where
  tables : List (String × List String)
  /-- The fields of an object, in order. -/
  fields : List Parameter
  /-- The lines of the class behind its description. -/
  body : List Line
  deriving DecidableEq, Repr

section Reading

/-- The first piece of a text with separators, and the other ones. A number of characters, which
belong to a separator, is skipped. -/
def pieces (separator : List Char) : Nat → List Char → List Char × List (List Char)
  | _, [] => ([], [])
  | skip + 1, _ :: rest => pieces separator skip rest
  | 0, c :: rest =>
    if separator.isPrefixOf (c :: rest) then
      let others := pieces separator (separator.length - 1) rest
      ([], others.1 :: others.2)
    else
      let others := pieces separator 0 rest
      (c :: others.1, others.2)

/-- What the pieces of a text denote. -/
def readPieces? {α : Type} (separator : String) (read? : List Char → Option α)
    (text : List Char) : Option (α × List α) := do
  let (first, others) := pieces separator.toList 0 text
  return (← read? first, ← others.mapM read?)

/-- Whether a character may stand in a name. -/
def isNameChar (c : Char) : Bool := c.isAlphanum || c == '_'

/-- A name at the start of a text, and what follows it. -/
def spanName (text : List Char) : String × List Char :=
  (String.ofList (text.takeWhile isNameChar), text.dropWhile isNameChar)

def readName? (text : List Char) : Option String :=
  if text ≠ [] ∧ text.all isNameChar then some (String.ofList text) else none

/-- A literal, a field or a name. -/
def Expression.readAtom? (text : List Char) : Option Expression :=
  match readLiteral? text with
  | some (value, []) => some (.literal (String.ofList value))
  | some _ => none
  | none =>
    match "self.".toList.isPrefixOf? text with
    | some name => (readName? name).map .field
    | none => (readName? text).map .named

/-- An atom, possibly in another case. -/
def Expression.readOperand? (text : List Char) : Option Expression :=
  match ".lower()".toList.isSuffixOf? text with
  | some atom => (readAtom? atom).map .lower
  | none =>
    match ".upper()".toList.isSuffixOf? text with
    | some atom => (readAtom? atom).map .upper
    | none => readAtom? text

def Expression.read? (text : List Char) : Option Expression := do
  let (first, others) ← readPieces? " + " readOperand? text
  return others.foldl .append first

/-- A text that is given, or one that is or is not in a table. -/
def Condition.readComparison? (text : List Char) : Option Condition :=
  match pieces " not in ".toList 0 text with
  | (e, [table]) => do return .negation (.listed (← Expression.read? e) (← readName? table))
  | _ =>
    match pieces " in ".toList 0 text with
    | (e, [table]) => do return .listed (← Expression.read? e) (← readName? table)
    | _ => (Expression.read? text).map .given

/-- A comparison, possibly negated. -/
def Condition.readOperand? (text : List Char) : Option Condition :=
  match "not ".toList.isPrefixOf? text with
  | some comparison => (readComparison? comparison).map .negation
  | none => readComparison? text

def Condition.read? (text : List Char) : Option Condition := do
  let (first, others) ← readPieces? " and " readOperand? text
  return others.foldl .both first

/-- A text in a message, which has no brace. -/
def MessagePart.readText? (text : List Char) : Option MessagePart :=
  if '\x7d' ∈ text then none else some (.plain (String.ofList text))

/-- What a message with expressions in braces says. -/
def readMessage? (text : List Char) : Option (List MessagePart) := do
  let (first, others) := pieces ['\x7b'] 0 text
  let parts ← others.mapM fun piece =>
    match pieces "!r\x7d".toList 0 piece with
    | (e, [after]) => do
      return [MessagePart.quoted (← Expression.read? e), ← MessagePart.readText? after]
    | _ => none
  return (← MessagePart.readText? first) :: parts.flatten

/-- The mark at which a text is cut. -/
def readMark? (text : List Char) : Option Char :=
  match readLiteral? text with
  | some ([mark], []) => some mark
  | _ => none

/-- The statement that ends a method with a value. -/
def Statement.readReturn? (text : List Char) : Option Statement :=
  match between? "cls(".toList ")".toList text with
  | some arguments => do
    let (first, others) ← readPieces? ", " Expression.read? arguments
    return .make (first :: others)
  | none => (Expression.read? text).map .give

/-- The statement that ends a method with an error, whose message is formatted. -/
def Statement.readRaise? (text : List Char) : Option Statement := do
  let (kind, call) := spanName text
  let message ← between? "(f\"".toList "\")".toList call
  if '\\' ∈ message ∨ '"' ∈ message then none else return .fail kind (← readMessage? message)

/-- The statement that stores a value in a field of the object. -/
def Statement.readStore? (arguments : List Char) : Option Statement := do
  let (field, after) ← readLiteral? arguments
  return .store (String.ofList field) (← Expression.read? (← ", ".toList.isPrefixOf? after))

/-- The statement that gives values to names. -/
def Statement.readAssignment? (text : List Char) : Option Statement :=
  match pieces " = ".toList 0 text with
  | (targets, [source]) => do
    let (first, others) ← readPieces? ", " readName? targets
    match pieces ".rpartition(".toList 0 source with
    | (e, [call]) =>
      return .cut (first :: others) (← Expression.read? e)
        (← readMark? (← ")".toList.isSuffixOf? call))
    | _ =>
      let (value, values) ← readPieces? ", " Expression.read? source
      return .assign (first :: others) (value :: values)
  | _ => none

def Statement.read? (text : List Char) : Option Statement :=
  match "return ".toList.isPrefixOf? text with
  | some value => readReturn? value
  | none =>
    match "raise ".toList.isPrefixOf? text with
    | some error => readRaise? error
    | none =>
      match between? "_set_field(self, ".toList ")".toList text with
      | some arguments => readStore? arguments
      | none => readAssignment? text

/-- Blocks with their depths, where a block is put before those that follow. It goes on with the
first one if this has the same depth. -/
def openBlock (depth : Int) (block : Block → Block) : List (Int × Block) → List (Int × Block)
  | [] => [(depth, block .done)]
  | (d, rest) :: outer =>
    if d = depth then (depth, block rest) :: outer else (depth, block .done) :: (d, rest) :: outer

/-- The blocks that lines are, each with its depth: the first one starts with the first line, and
the next one where a line is less deep. -/
def readBlocks? : List Line → Option (List (Int × Block))
  | [] => some []
  | l :: rest => do
    let blocks ← readBlocks? rest
    match between? "if ".toList ":".toList l.text.toList with
    | some text =>
      let c ← Condition.read? text
      match blocks with
      | (depth, body) :: outer =>
        if depth = l.depth + 1 then return openBlock l.depth (.guarded c body) outer else none
      | [] => none
    | none => return openBlock l.depth (.step (← Statement.read? l.text.toList)) blocks

/-- The block of a depth that lines are. Empty lines do not count. -/
def Block.read? (depth : Int) (lines : List Line) : Option Block := do
  match ← readBlocks? (lines.filter (·.text ≠ "")) with
  | [(d, block)] => if d = depth then return block else none
  | _ => none

/-- Whether a text ends in the three marks that close a description. -/
def closesDescription (text : List Char) : Bool := "\"\"\"".toList.isSuffixOf text

/-- Lines behind the description that may stand at their start. -/
def dropDescription : List Line → List Line
  | [] => []
  | l :: rest =>
    match "\"\"\"".toList.isPrefixOf? l.text.toList with
    | none => l :: rest
    | some text =>
      if closesDescription text then rest
      else (rest.dropWhile fun l => !closesDescription l.text.toList).tail

/-- Lines as far as they are deeper than a depth, or empty. -/
def deeperThan (depth : Int) (lines : List Line) : List Line :=
  lines.takeWhile fun l => depth < l.depth ∨ l.text = ""

/-- The parameter or field that a text declares. -/
def Parameter.read? (text : List Char) : Option Parameter := do
  let (name, kind) := spanName text
  let default ← ": str".toList.isPrefixOf? kind
  if default = [] then return ⟨name, none⟩
  else
    match readLiteral? (← " = ".toList.isPrefixOf? default) with
    | some (value, []) => return ⟨name, some (String.ofList value)⟩
    | _ => none

/-- The field that a line of a class declares. -/
def fieldOf? (l : Line) : Option Parameter :=
  if l.depth = 1 then Parameter.read? l.text.toList else none

/-- The signature of the method of a class that a line opens. -/
def signature? (l : Line) : Option (List Char) :=
  if l.depth = 1 then "def ".toList.isPrefixOf? l.text.toList else none

/-- Whether a line opens the definition of a method with a name. -/
def Defines (name : String) (l : Line) : Prop :=
  (signature? l).map (fun signature => (spanName signature).1) = some name

instance (name : String) (l : Line) : Decidable (Defines name l) :=
  inferInstanceAs (Decidable (_ = _))

/-- The last method with a name in the lines of a class, where `ofClass` tells whether the line
before them makes the next method one of the class. -/
def Method.find? (name : String) (ofClass : Bool) : List Line → Option Method
  | [] => none
  | l :: rest =>
    (Method.find? name (l = ⟨1, "@classmethod"⟩) rest).or
      (if Defines name l then
        (signature? l).map fun signature => ⟨ofClass, signature, deeperThan 1 rest⟩
      else none)

/-- The parameters of a signature behind the object or the class. -/
def readSignature? (ofClass : Bool) (signature : List Char) : Option (List Parameter) := do
  let inside ← "(".toList.isPrefixOf? (spanName signature).2
  let _ ← ") -> ".toList.isPrefixOf? (inside.dropWhile (· ≠ ')'))
  let (receiver, parameters) := pieces ", ".toList 0 (inside.takeWhile (· ≠ ')'))
  if receiver = (if ofClass then "cls" else "self").toList then parameters.mapM Parameter.read?
  else none

/-- What a method does. -/
def Method.read? (m : Method) : Option Routine := do
  return ⟨← readSignature? m.ofClass m.signature, ← Block.read? 2 (dropDescription m.body)⟩

/-- The literals of a list that is written with commas, the last of which may have one too. -/
def readLiterals? (text : List Char) : Option (List String) :=
  match hvalue : readLiteral? text with
  | none => none
  | some (value, after) =>
    match hrest : ", ".toList.isPrefixOf? after with
    | some rest =>
      have : rest.length < text.length := by
        have hafter := length_lt_of_readLiteral? hvalue
        rw [← List.isPrefixOf?_eq_some_iff_append_eq.mp hrest, List.length_append] at hafter
        omega
      (readLiterals? rest).map (String.ofList value :: ·)
    | none => if after = [] ∨ after = [','] then some [String.ofList value] else none
  termination_by text.length

/-- The entries of a tuple of texts. A single literal needs a comma. -/
def readTuple? (text : List Char) : Option (List String) := do
  let inside ← between? "(".toList ")".toList text
  if inside = [] then return []
  else
    let entries ← readLiterals? inside
    if entries.length = 1 ∧ inside.getLast? ≠ some ',' then none else return entries

/-- The table that a line of a module defines. -/
def readTable? (l : Line) : Option (String × List String) :=
  if l.depth = 0 then do
    let (name, definition) := spanName l.text.toList
    return (name, ← readTuple? (← ": tuple[str, ...] = ".toList.isPrefixOf? definition))
  else none

/-- The line before a class whose objects are made from their fields. -/
def dataclassLine : Line := line "@dataclasses.dataclass(frozen=True, slots=True)"

/-- The lines of the class of locales. -/
def classBody? (lines : List Line) : Option (List Line) :=
  match lines.dropWhile (· ≠ dataclassLine) with
  | _ :: head :: rest => if head = line "class Lang:" then some (deeperThan 0 rest) else none
  | _ => none

/-- The lines that define what the methods of a class use besides the tables. A table of regions is
there for the method that reads a locale, which has an error of its own. -/
def supportLines (tables : List (String × List String)) : List Line :=
  line "_set_field = object.__setattr__" ::
    if (tables.lookup "_REGIONS").isSome then [line "class UnknownLocaleOnDecode(ValueError):"]
    else []

/-- The class of locales that the lines of a module define. -/
def Class.read? (lines : List Line) : Option Class := do
  let body := dropDescription (← classBody? lines)
  let tables := lines.filterMap readTable?
  if supportLines tables ⊆ lines then return { tables, fields := body.filterMap fieldOf?, body }
  else none

end Reading

section Running

/-- What a method knows while it runs. -/
structure Frame where
  /-- The fields of its object. -/
  fields : List (String × String)
  /-- The values of its names, the last one first. -/
  names : List (String × String)
  deriving DecidableEq, Repr

/-- How a block ends. -/
inductive Outcome
  | finished (frame : Frame)
  | text (text : String)
  /-- With a new object for arguments. -/
  | made (arguments : List String)
  | raised (kind message : String)
  deriving DecidableEq, Repr

/-- How a call ends. -/
inductive Result
  | text (text : String)
  /-- With an object, given by its fields. -/
  | made (fields : List (String × String))
  | raised (kind message : String)
  deriving DecidableEq, Repr

/-- The object whose own method for a new object ends in a way. This method has no value. -/
def Outcome.object? : Outcome → Option Result
  | .finished frame => some (.made frame.fields)
  | .raised kind message => some (.raised kind message)
  | .text _ | .made _ => none

def Expression.evaluate (frame : Frame) : Expression → Option String
  | .named name => frame.names.lookup name
  | .field name => frame.fields.lookup name
  | .literal text => some text
  | .lower e => (e.evaluate frame).map Text.lower
  | .upper e => (e.evaluate frame).map Text.upper
  | .append e e' => do return (← e.evaluate frame) ++ (← e'.evaluate frame)

def Condition.evaluate (tables : List (String × List String)) (frame : Frame) :
    Condition → Option Bool
  | .given e => (e.evaluate frame).map (· ≠ "")
  | .listed e table => do return (← tables.lookup table).contains (← e.evaluate frame)
  | .negation c => (c.evaluate tables frame).map (!·)
  | .both c c' => do if ← c.evaluate tables frame then c'.evaluate tables frame else return false

def MessagePart.evaluate (frame : Frame) : MessagePart → Option String
  | .plain text => some text
  | .quoted e => (e.evaluate frame).map Text.quoted

/-- A frame in which names have new values. -/
def Frame.assign (frame : Frame) (names values : List String) : Option Frame :=
  if names.length = values.length then
    some { frame with names := (names.zip values).reverse ++ frame.names }
  else none

/-- A frame in which a field has a new value. -/
def Frame.store (frame : Frame) (field value : String) : Option Frame :=
  if (frame.fields.lookup field).isSome then
    some { frame with
      fields := frame.fields.map fun f => if f.1 = field then (field, value) else f }
  else none

/-- What stands before the last mark in a text, the mark, and what stands behind it. A text without
the mark counts as what stands behind it. -/
def cutLast (mark : Char) (text : String) : List String :=
  match splitLast? mark text.toList with
  | some (before, after) => [String.ofList before, mark.toString, String.ofList after]
  | none => ["", "", text]

def Statement.run (frame : Frame) : Statement → Option Outcome
  | .assign names values => do
    return .finished (← frame.assign names (← values.mapM (Expression.evaluate frame)))
  | .cut names e mark => do
    return .finished (← frame.assign names (cutLast mark (← e.evaluate frame)))
  | .store field e => do return .finished (← frame.store field (← e.evaluate frame))
  | .give e => (e.evaluate frame).map .text
  | .make arguments => (arguments.mapM (Expression.evaluate frame)).map .made
  | .fail kind message =>
    (message.mapM (MessagePart.evaluate frame)).map fun parts => .raised kind (String.join parts)

def Block.run (tables : List (String × List String)) : Frame → Block → Option Outcome
  | frame, .done => some (.finished frame)
  | frame, .step s rest => do
    match ← s.run frame with
    | .finished frame => rest.run tables frame
    | outcome => return outcome
  | frame, .guarded c body rest => do
    if ← c.evaluate tables frame then
      match ← body.run tables frame with
      | .finished frame => rest.run tables frame
      | outcome => return outcome
    else rest.run tables frame

/-- The values of parameters for arguments. -/
def bindArguments : List Parameter → List String → Option (List (String × String))
  | [], [] => some []
  | [], _ :: _ => none
  | p :: rest, [] => do return (p.name, ← p.default) :: (← bindArguments rest [])
  | p :: rest, argument :: arguments => do
    return (p.name, argument) :: (← bindArguments rest arguments)

namespace Class

/-- The method with a name, of the class or of its objects. -/
def routine? (c : Class) (ofClass : Bool) (name : String) : Option Routine := do
  let m ← Method.find? name false c.body
  if m.ofClass = ofClass then m.read? else none

/-- A new object for arguments. Its fields are set first, then its own method for this runs. -/
def construct (c : Class) (arguments : List String) : Option Result := do
  let routine ← c.routine? false "__post_init__"
  let frame := ⟨← bindArguments c.fields arguments, ← bindArguments routine.parameters []⟩
  (← routine.body.run c.tables frame).object?

/-- How a call ends whose body ends in a way. It has to end with a value. -/
def conclude (c : Class) : Outcome → Option Result
  | .finished _ => none
  | .text text => some (.text text)
  | .made arguments => c.construct arguments
  | .raised kind message => some (.raised kind message)

/-- A call of a method with arguments, of an object that is given by its fields or else of the
class. -/
def call (c : Class) (object : Option (List (String × String))) (name : String)
    (arguments : List String) : Option Result := do
  let routine ← c.routine? object.isNone name
  let frame := ⟨object.getD [], ← bindArguments routine.parameters arguments⟩
  c.conclude (← routine.body.run c.tables frame)

end Class

end Running

section Rules

variable {tables : List (String × List String)} {frame frame' : Frame}

/-- A condition on a table is decided by the entries of the table. -/
theorem Condition.evaluate_listed {e : Expression} {text table : String} {entries : List String}
    (he : e.evaluate frame = some text) (htable : tables.lookup table = some entries) :
    (Condition.listed e table).evaluate tables frame = some (decide (text ∈ entries)) := by
  simp [Condition.evaluate, he, htable]

theorem Condition.evaluate_given {e : Expression} {text : String}
    (he : e.evaluate frame = some text) :
    (Condition.given e).evaluate tables frame = some (decide (text ≠ "")) := by
  simp [Condition.evaluate, he]

theorem Condition.evaluate_negation {c : Condition} {b : Bool}
    (hc : c.evaluate tables frame = some b) :
    (Condition.negation c).evaluate tables frame = some (!b) := by
  simp [Condition.evaluate, hc]

theorem Condition.evaluate_both {c c' : Condition} {b b' : Bool}
    (hc : c.evaluate tables frame = some b) (hc' : c'.evaluate tables frame = some b') :
    (Condition.both c c').evaluate tables frame = some (b && b') := by
  cases b <;> simp [Condition.evaluate, hc, hc']

/-- A block goes on behind a statement that does not end the method. -/
theorem Block.run_step {s : Statement} (h : s.run frame = some (.finished frame')) (rest : Block) :
    (Block.step s rest).run tables frame = rest.run tables frame' := by
  simp [Block.run, h]

/-- A block of one statement ends as the statement does. -/
theorem Block.run_single (s : Statement) : (Block.step s .done).run tables frame = s.run frame := by
  cases h : s.run frame with
  | none => simp [Block.run, h]
  | some outcome => cases outcome <;> simp [Block.run, h]

/-- A block under a condition that does not hold is passed over. -/
theorem Block.run_guarded_false {c : Condition} (h : c.evaluate tables frame = some false)
    (body rest : Block) : (Block.guarded c body rest).run tables frame = rest.run tables frame := by
  simp [Block.run, h]

/-- A block under a condition that holds comes before the others. -/
theorem Block.run_guarded_finished {c : Condition} {body : Block}
    (h : c.evaluate tables frame = some true)
    (hbody : body.run tables frame = some (.finished frame')) (rest : Block) :
    (Block.guarded c body rest).run tables frame = rest.run tables frame' := by
  simp [Block.run, h, hbody]

/-- A block under a condition that holds can end the method. -/
theorem Block.run_guarded_ended {c : Condition} {body : Block} {outcome : Outcome}
    (h : c.evaluate tables frame = some true) (hbody : body.run tables frame = some outcome)
    (houtcome : ∀ frame', outcome ≠ .finished frame') (rest : Block) :
    (Block.guarded c body rest).run tables frame = some outcome := by
  cases outcome with
  | finished frame' => exact absurd rfl (houtcome frame')
  | text | made | raised => simp [Block.run, h, hbody]

/-- How a call ends is told by how the body of the method ends. -/
theorem Class.call_eq {c : Class} (object : Option (List (String × String))) {name : String}
    {arguments : List String} {routine : Routine} {names : List (String × String)}
    {outcome : Outcome} (hroutine : c.routine? object.isNone name = some routine)
    (hnames : bindArguments routine.parameters arguments = some names)
    (hrun : routine.body.run c.tables ⟨object.getD [], names⟩ = some outcome) :
    c.call object name arguments = c.conclude outcome := by
  simp only [Class.call, hroutine, hnames, hrun, Option.bind_eq_bind, Option.bind_some]

/-- How making an object ends is told by how the method for this ends. -/
theorem Class.construct_eq {c : Class} {arguments : List String} {routine : Routine}
    {fields names : List (String × String)} {outcome : Outcome}
    (hroutine : c.routine? false "__post_init__" = some routine)
    (hfields : bindArguments c.fields arguments = some fields)
    (hnames : bindArguments routine.parameters [] = some names)
    (hrun : routine.body.run c.tables ⟨fields, names⟩ = some outcome) :
    c.construct arguments = outcome.object? := by
  simp only [Class.construct, hroutine, hfields, hnames, hrun, Option.bind_eq_bind,
    Option.bind_some]

end Rules

end Phrasebook.Generated
