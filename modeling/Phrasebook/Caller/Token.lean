import Phrasebook.Caller.Refusal

/-!
# Tokens of callers

The text of a caller as a list of words, marks and line structure. If the text cannot be cut to its
end, the last token says why.
-/

namespace Phrasebook.Caller

inductive TokenKind
  /-- A name that is no keyword. -/
  | name
  | keyword
  | number
  /-- A string of characters or of bytes, with whether its escapes are sound. -/
  | string (bytes sound : Bool)
  | mark
  /-- The end of a line that holds a statement. -/
  | newline
  | indent
  | dedent
  | finish
  /-- The text cannot be cut any further. An immediate refusal prevails over the one for a missing
  block. -/
  | bad (refusal : CallerRefusal) (immediate : Bool)
  deriving DecidableEq, Repr

structure Token where
  kind : TokenKind
  /-- The text, for names, keywords and marks. -/
  text : String := ""
  line : Nat := 1
  /-- The number of bytes before the token on its line. -/
  column : Nat := 0
  deriving DecidableEq, Repr

/-- Whether a token is a keyword or a mark with a text. -/
def Token.is (token : Token) (text : String) : Bool :=
  (token.kind == .mark || token.kind == .keyword) && token.text == text

end Phrasebook.Caller
