/-!
# YAML tokens

What a stream is made of: directives and document markers, the brackets of flow collections, the starts and
ends that indentation gives to block collections, the indicators of entries, keys and values, the properties
of nodes, and scalars.
-/

namespace Recast.Yaml

/-- How a scalar is written. -/
inductive ScalarStyle where
  | plain
  | singleQuoted
  | doubleQuoted
  | literal
  | folded
deriving DecidableEq, Repr

/-- A unit of a stream. -/
inductive Token where
  | versionDirective (major minor : Nat)
  | tagDirective (handle value : String)
  | documentStart
  | documentEnd
  | blockSequenceStart
  | blockMappingStart
  | blockEnd
  | flowSequenceStart
  | flowSequenceEnd
  | flowMappingStart
  | flowMappingEnd
  | blockEntry
  | flowEntry
  | key
  | value
  | aliasTo (name : String)
  | anchor (name : String)
  | tag (handle suffix : String)
  | scalar (text : String) (style : ScalarStyle)
deriving DecidableEq, Repr

end Recast.Yaml
