import Phrasebook.Text.Quoted

/-!
# Events

What is worth recording while catalogs are read, compiled, written and checked. An event has a
level, a place of origin in the program, and a message.
-/

namespace Phrasebook

/-- Something worth recording. -/
inductive Event
  | sectionsRead (count : Nat) (source : String)
  /-- A later source replaced a section. -/
  | sectionReplaced (key : String)
  | catalogCompiled (messages locales : Nat) (default : String)
  /-- A wording comes after another one for its locale. -/
  | wordingUnreachable (language : String) (region : Option String) (key : String)
  /-- There is no data on a locale. -/
  | localeUnlisted (tag dataName : String)
  | localeUnnamed (tag : String)
  /-- A language gives no name for a constructor. -/
  | constructorOmitted (language name : String)
  /-- Two languages give one name for a constructor. -/
  | constructorShared (first second name : String)
  | functionWritten (key identifier : String)
  | moduleWritten (path : String)
  | referencesFound (count : Nat) (source : String)
  deriving DecidableEq, Repr

namespace Event

/-- How important an event is. -/
inductive Level
  | debug
  | info
  | warning
  deriving DecidableEq, Repr

def Level.name : Level → String
  | .debug => "DEBUG"
  | .info => "INFO"
  | .warning => "WARNING"

def level : Event → Level
  | .localeUnnamed _ => .warning
  | .moduleWritten _ => .info
  | _ => .debug

/-- The part of the program that an event comes from. -/
def origin : Event → String
  | .sectionsRead .. => "twinegen.syntax.reader"
  | .sectionReplaced _ => "twinegen.syntax.reader"
  | .catalogCompiled .. => "twinegen.catalog.compiler"
  | .wordingUnreachable .. => "twinegen.catalog.dispatch"
  | .localeUnlisted .. => "twinegen.catalog.locales"
  | .localeUnnamed _ => "twinegen.catalog.locales"
  | .constructorOmitted .. => "twinegen.emit"
  | .constructorShared .. => "twinegen.emit"
  | .functionWritten .. => "twinegen.emit"
  | .moduleWritten _ => "twinegen.build"
  | .referencesFound .. => "twinegen.analysis.references"

def message : Event → String
  | .sectionsRead count source => s!"Read {count} section(s) from {source}"
  | .sectionReplaced key => s!"Section [{key}] overridden by a later source"
  | .catalogCompiled messages locales default =>
    s!"Compiled {messages} key(s) across {locales} locale(s), default {default}"
  | .wordingUnreachable language region key =>
    s!"Duplicate translation {language}-" ++ region.getD "None" ++ s!" of '{key}' is unreachable"
  | .localeUnlisted tag dataName =>
    s!"No CLDR data for locale {tag}: unknown locale " ++ Text.quoted dataName
  | .localeUnnamed tag => s!"Locale '{tag}' is not known to CLDR"
  | .constructorOmitted language name =>
    s!"Language '{language}' gets no constructor: '{name}' is not an identifier"
  | .constructorShared first second name =>
    s!"Languages '{first}' and '{second}' share constructor '{name}'; keeping the first"
  | .functionWritten key identifier => s!"Emitted '{key}' as {identifier}()"
  | .moduleWritten path => s!"Wrote translations to {path}"
  | .referencesFound count source => s!"Found {count} translation reference(s) in {source}"

def text (event : Event) : String := s!"{event.level.name} {event.origin}: {event.message}"

end Event

end Phrasebook
