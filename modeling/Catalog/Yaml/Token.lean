import Catalog.Yaml.Error

/-!
# Tokens of a YAML text

The tokens between the characters of a text and the nodes of its document. The start and the end
of a block collection, which the text shows by indentation only, are tokens too.
-/

namespace Catalog.Yaml

/-- What a directive says. -/
inductive Directive where
  | version (major minor : Nat)
  | tagHandle (handle start : String)
  | unknown (name : String)
  deriving DecidableEq, Repr

/-- A token. -/
inductive Token where
  | streamEnd
  | directive (content : Directive)
  | documentStart
  | documentEnd
  | blockSequenceStart
  | blockMappingStart
  | blockEnd
  | flowSequenceStart
  | flowSequenceEnd
  | flowMappingStart
  | flowMappingEnd
  | blockEntry
  | flowEntry
  | key
  | value
  | reference (name : String)
  | anchor (name : String)
  | tag (handle : Option String) (rest : String)
  | scalar (text : String) (plain : Bool)
  deriving DecidableEq, Repr

/-- The tokens of a text up to its end or to the first fault in it. -/
structure TokenStream where
  tokens : List Token
  /-- The fault after the last token, if the end of the text was not reached. -/
  fault : Option Error
  deriving Repr

end Catalog.Yaml
