import Phrasebook.Text.CodePointSet

/-!
# Blank characters

The characters that separate words and are trimmed at the ends of a text: the bidirectional types
white space, segment and paragraph separator of the Unicode character database, and the space
separators. A line feed is blank; a zero-width space is not.
-/

namespace Phrasebook.Text

/-- The twenty-nine blank characters. -/
def blanks : CodePointSet := ⟨[
    0x9, 0xe, 0x1c, 0x21, 0x85, 0x86, 0xa0, 0xa1, 0x1680, 0x1681, 0x2000, 0x200b, 0x2028, 0x202a,
    0x202f, 0x2030, 0x205f, 0x2060, 0x3000, 0x3001]⟩

def isBlank (c : Char) : Bool := blanks.contains c

def trimStart (text : List Char) : List Char := text.dropWhile isBlank

def trimEnd (text : List Char) : List Char := (text.reverse.dropWhile isBlank).reverse

def trim (text : List Char) : List Char := trimEnd (trimStart text)

end Phrasebook.Text
