/-
  The tokens of YAML text.
-/

namespace DocCorpus.Yaml

inductive Token
  | streamEnd
  /-- The version that a directive claims. -/
  | version (major minor : Nat)
  /-- A handle that stands for the start of tags. -/
  | shorthand (handle start : String)
  | documentStart
  | documentEnd
  | blockSequence
  | blockMapping
  /-- The end of a block collection. -/
  | blockEnd
  | flowSequence
  | flowSequenceEnd
  | flowMapping
  | flowMappingEnd
  | blockEntry
  | flowEntry
  | key
  | value
  | aliasOf (name : String)
  | anchor (name : String)
  | tag (handle suffix : String)
  /-- A text, and whether it stands there without quotes or a block header. -/
  | scalar (plain : Bool) (text : String)
  deriving DecidableEq

end DocCorpus.Yaml
