import Phrasebook.Fault
import Phrasebook.Template.Basic

/-!
# Reading templates

A text is scanned from the left. Where a percent sign opens a directive, the directive is taken;
where it is doubled, it stands for itself; anywhere else it is text like any other character. A
directive that shows an integer must not have a precision.
-/

namespace Phrasebook

namespace Directive

/-- The flag at the start of a text, if there is one, and the rest. -/
def readFlag : List Char → Option String × List Char
  | [] => (none, [])
  | c :: rest => if c = '-' ∨ c = '+' ∨ c = '#' then (some c.toString, rest) else (none, c :: rest)

/-- The digits at the start of a text, if there are any, and the rest. -/
def readDigits (text : List Char) : Option String × List Char :=
  let digits := text.takeWhile Char.isDigit
  (if digits.isEmpty then none else some (String.ofList digits), text.dropWhile Char.isDigit)

/-- The precision at the start of a text, if there is one, and the rest. A point without digits is
not a precision. -/
def readPrecision : List Char → Option String × List Char
  | '.' :: rest =>
    match readDigits rest with
    | (some digits, rest) => (some digits, rest)
    | (none, rest) => (none, '.' :: rest)
  | rest => (none, rest)

/-- The directive at the start of a text behind a percent sign, and the rest. -/
def read? (text : List Char) : Option (Directive × List Char) :=
  let (flag, text) := readFlag text
  let (width, text) := readDigits text
  let (precision, text) := readPrecision text
  match text with
  | [] => none
  | c :: rest => (Conversion.ofLetter? c).map fun conversion =>
    (⟨conversion, flag, width, precision⟩, rest)

theorem length_readFlag (text : List Char) : (readFlag text).2.length ≤ text.length := by
  cases text with
  | nil => simp [readFlag]
  | cons c rest =>
    rw [readFlag]
    split <;> simp

theorem length_readDigits (text : List Char) : (readDigits text).2.length ≤ text.length :=
  (List.dropWhile_sublist _).length_le

theorem length_readPrecision (text : List Char) : (readPrecision text).2.length ≤ text.length := by
  unfold readPrecision
  split
  · rename_i rest
    have h := length_readDigits rest
    split <;> (rename_i he; simp_all; try omega)
  · exact Nat.le_refl _

/-- A directive takes at least its letter. -/
theorem length_lt_of_read? {text rest : List Char} {d : Directive}
    (h : read? text = some (d, rest)) : rest.length < text.length := by
  unfold read? at h
  have h₁ := length_readFlag text
  have h₂ := length_readDigits (readFlag text).2
  have h₃ := length_readPrecision (readDigits (readFlag text).2).2
  simp only at h
  split at h
  · simp at h
  · rename_i he
    rw [he] at h₃
    obtain ⟨_, _, h⟩ := Option.map_eq_some_iff.1 h
    obtain ⟨_, rfl⟩ := Prod.mk.inj h
    simp only [List.length_cons] at h₃
    omega

end Directive

namespace Template

/-- A literal run in front of other parts, unless it is empty; `run` holds its characters, last
first. -/
def flush (run : List Char) (segments : List Segment) : List Segment :=
  if run.isEmpty then segments
  else
    let text := String.ofList run.reverse
    .literal text text :: segments

/-- The parts of a text, where `run` holds the literal run that is being read, last first. The first
directive without a replacement field is refused. -/
def segmentsAfter (run text : List Char) : Except Directive (List Segment) :=
  match text with
  | [] => .ok (flush run [])
  | '%' :: '%' :: rest => do return flush run (.literal "%%" "%" :: (← segmentsAfter [] rest))
  | '%' :: rest =>
    match _h : Directive.read? rest with
    | some (d, rest') =>
      if d.conversion.isInteger && d.precision.isSome then .error d
      else do return flush run (.directive d :: (← segmentsAfter [] rest'))
    | none => segmentsAfter ('%' :: run) rest
  | c :: rest => segmentsAfter (c :: run) rest
termination_by text.length
decreasing_by
  · simp only [List.length_cons]
    omega
  · have := Directive.length_lt_of_read? ‹_›
    simp only [List.length_cons]
    omega
  · simp only [List.length_cons]
    omega
  · simp only [List.length_cons]
    omega

/-- The template of a text, or the first directive without a replacement field. -/
def parse (text : String) : Except Directive Template :=
  Template.mk <$> segmentsAfter [] text.toList

/-- Why a directive has no replacement field. -/
def precisionReason : String := "integer conversions take no precision"

def ofText (text : String) (span : Option Span := none) : Except Fault Template :=
  match parse text with
  | .ok template => .ok template
  | .error d => .error (.placeholderUnsupported d.source precisionReason span)

end Template

end Phrasebook
