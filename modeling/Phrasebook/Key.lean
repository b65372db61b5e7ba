import Phrasebook.Fault
import Phrasebook.Text.Alphanumeric
import Phrasebook.Text.CaseMapping
import Phrasebook.Text.Digit
import Phrasebook.Text.IdentifierChar
import Phrasebook.Text.LetterCase
import Phrasebook.Text.Split

/-!
# Keys

The key of a section becomes the name of a function. A key is cut into words at every character that
is neither a letter nor a digit, where a capital follows a small letter or a digit, and before the
last capital of a row that a small letter follows: `HTTPError` has the words `HTTP` and `Error`. The
identifier of a key joins the words in lower case by low lines, and the parts between its dots by
two of them.
-/

namespace Phrasebook.Key

def isSeparator (c : Char) : Bool := !Text.isAlphanumeric c

/-- The runs of characters between separators, where `chunk` holds the run that is being read, last
first. -/
def chunksAfter (chunk : List Char) : List Char → List (List Char)
  | [] => if chunk.isEmpty then [] else [chunk.reverse]
  | c :: rest =>
    if isSeparator c then
      if chunk.isEmpty then chunksAfter [] rest else chunk.reverse :: chunksAfter [] rest
    else chunksAfter (c :: chunk) rest

def chunks (text : List Char) : List (List Char) := chunksAfter [] text

/-- Whether a word starts at a character, given the ones before and after it. -/
def startsWord (previous c : Char) (next : Option Char) : Bool :=
  Text.isUppercase c &&
    (Text.isLowercase previous || Text.isDigit previous ||
      (Text.isUppercase previous && next.any Text.isLowercase))

/-- The words of the rest of a run, where `word` holds the word that is being read, last first, and
`previous` is its last character. -/
def wordsAfter (word : List Char) (previous : Char) : List Char → List (List Char)
  | [] => [word.reverse]
  | c :: rest =>
    if startsWord previous c rest.head? then word.reverse :: wordsAfter [c] c rest
    else wordsAfter (c :: word) c rest

/-- The words of a run without separators. -/
def chunkWords : List Char → List (List Char)
  | [] => []
  | c :: rest => wordsAfter [c] c rest

def words (text : List Char) : List (List Char) := (chunks text).flatMap chunkWords

/-- The words of a text in lower case, joined by low lines. -/
def snakeChars (text : List Char) : List Char :=
  ['_'].intercalate ((words text).map Text.lowerChars)

def snake (text : String) : String := String.ofList (snakeChars text.toList)

/-- A word with its first character in upper case and the others in lower case. -/
def capitalize : List Char → List Char
  | [] => []
  | c :: rest => Text.upperChar c ++ Text.lowerChars rest

/-- The capitalized words of a text, joined together. -/
def camel (text : String) : String :=
  String.ofList ((words text.toList).flatMap capitalize)

/-- The identifier of a key: its dotted parts in snake case, joined by two low lines. -/
def identifier (key : String) : String :=
  String.ofList (['_', '_'].intercalate ((Text.splitOn '.' key.toList).map snakeChars))

/-- The words that generated code reserves for itself as a language. -/
def keywords : List String :=
  ["False", "None", "True", "and", "as", "assert", "async", "await", "break", "class", "continue",
    "def", "del", "elif", "else", "except", "finally", "for", "from", "global", "if", "import",
    "in", "is", "lambda", "nonlocal", "not", "or", "pass", "raise", "return", "try", "while",
    "with", "yield"]

/-- The names of a generated module that are not functions for keys. -/
def reserved : List String :=
  ["Lang", "ALL_LANGUAGES", "DEFAULT_LANG", "UnknownLocaleOnDecode", "dataclasses", "__all__",
    "__doc__", "__file__", "__name__"]

/-- Whether generated code can use a text as a name. -/
def isName (text : String) : Bool :=
  Text.isIdentifier text.toList && !keywords.contains text

/-- Whether a generated module can define a function of this name. -/
def isDefinable (identifier : String) : Bool :=
  isName identifier && !reserved.contains identifier

def validate (identifier key : String) (span : Option Span) : Except Fault Unit :=
  if isDefinable identifier then .ok () else .error (.keyNotIdentifier key identifier span)

end Phrasebook.Key
