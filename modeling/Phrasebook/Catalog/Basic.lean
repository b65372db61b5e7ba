import Phrasebook.Dispatch

/-!
# Catalogs

A catalog holds messages in the order of their identifiers, the set of all their locales and the
policy for locales without a wording. A message is found by its identifier, or by any key that
gives its identifier.
-/

namespace Phrasebook

/-- Messages, ready to be rendered or written as a module. -/
structure Catalog where
  /-- The messages in the order of their identifiers. -/
  messages : List Message
  locales : LocaleSet
  fallback : Policy := .firstListed
  deriving DecidableEq, Repr

namespace Catalog

def identifiers (c : Catalog) : List String := c.messages.map Message.identifier

def message? (c : Catalog) (identifier : String) : Option Message :=
  c.messages.find? (·.identifier == identifier)

/-- The message with a name: an identifier, or else a key. -/
def get? (c : Catalog) (name : String) : Option Message :=
  match c.message? name with
  | some m => some m
  | none => c.message? (Key.identifier name)

def contains (c : Catalog) (name : String) : Bool := (c.get? name).isSome

def resolve (c : Catalog) (name : String) : Except Fault Message :=
  match c.get? name with
  | some m => .ok m
  | none => .error (.keyUnresolved [name] none)

def dispatch (c : Catalog) (name : String) : Except Fault Dispatch := do
  return Dispatch.ofMessage (← c.resolve name) c.fallback

def format (c : Catalog) (name : String) (locale : Locale) (values : List Value) :
    Except Error String := do
  let dispatch ← c.dispatch name
  (dispatch.select locale).format values

/-- The message with a name, rendered for the locale with a tag. The tag is read before the name is
looked up. -/
def formatTag (c : Catalog) (name tag : String) (values : List Value) : Except Error String := do
  c.format name (← Locale.ofTag tag) values

end Catalog

end Phrasebook
