/-!
# Why a YAML text is not a value

A text may break the grammar, or it may be well formed and name a value that does not exist, such
as a date in a thirteenth month. The second kind of fault has a cause of its own each. A text that
is well formed may also be nested too deep for its reader.
-/

namespace Catalog.Yaml

/-- Why a YAML text could not be read. -/
inductive Error where
  /-- The text breaks the grammar, or uses an unknown tag, alias or directive. -/
  | malformed
  /-- An escape names a code point above the last one. -/
  | noSuchCharacter
  /-- An escape names a code point that does not fit a machine word. -/
  | characterOutOfRange
  /-- A scalar tagged as a number is no numeral, or is too long. -/
  | badNumeral
  /-- A scalar tagged as a number has no characters to read. -/
  | emptyNumeral
  /-- A scalar tagged as a truth value is no word for one. -/
  | badTruthValue
  /-- A scalar tagged as a timestamp does not look like one. -/
  | badTimestamp
  /-- A timestamp names a day or a time that does not exist. -/
  | noSuchTime
  /-- Collections are nested too deep, or nodes refer to each other in too long a chain. -/
  | tooDeep
  /-- A mapping is tagged as a timestamp. -/
  | timestampOfMapping
  deriving DecidableEq, Repr

end Catalog.Yaml
