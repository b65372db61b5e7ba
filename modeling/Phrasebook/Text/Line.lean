/-!
# Lines

Only a line feed ends a line. A text that is read from a file first has its carriage returns, alone
or before a line feed, turned into line feeds.
-/

namespace Phrasebook.Text

/-- A text with every line ending, of any of the three kinds, written as a line feed. -/
def unifyNewlines : List Char → List Char
  | [] => []
  | '\r' :: '\n' :: rest => '\n' :: unifyNewlines rest
  | c :: rest => (if c = '\r' then '\n' else c) :: unifyNewlines rest

/-- The lines of a text without their line feeds, where `line` holds the characters of the line
that is being read, last first. A final line feed opens no further line. -/
def splitLinesAfter (line : List Char) : List Char → List (List Char)
  | [] => if line.isEmpty then [] else [line.reverse]
  | c :: rest =>
    if c = '\n' then line.reverse :: splitLinesAfter [] rest else splitLinesAfter (c :: line) rest

def splitLines (text : List Char) : List (List Char) := splitLinesAfter [] text

/-- A line without the carriage returns and line feeds at its end. -/
def chomp (line : List Char) : List Char :=
  (line.reverse.dropWhile fun c => c = '\r' ∨ c = '\n').reverse

end Phrasebook.Text
