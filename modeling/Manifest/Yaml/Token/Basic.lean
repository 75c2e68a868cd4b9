import Manifest.Yaml.Tag

/-!
# Tokens of YAML texts

A text is a list of tokens.  Indentation shows in tokens that open and close
block collections; whether a word is a key is only known at the colon after it,
so that the token of a key stands in front of the word.
-/

namespace Manifest.Yaml

/-- How a scalar is written. -/
inductive ScalarStyle where
  | plain
  | singleQuoted
  | doubleQuoted
  | literal
  | folded
deriving DecidableEq, Repr, Inhabited

/-- A token. -/
inductive Token where
  | streamEnd
  | versionDirective (major minor : Nat)
  | tagDirective (handle : String) (meaning : Tag)
  | documentStart
  | documentEnd
  | blockSequenceStart
  | blockMappingStart
  | blockEnd
  | flowSequenceStart
  | flowSequenceEnd
  | flowMappingStart
  | flowMappingEnd
  | blockEntry
  | flowEntry
  | key
  | value
  | reference (name : String)
  | anchor (name : String)
  | tag (handle : String) (suffix : Tag)
  | scalar (content : String) (style : ScalarStyle)
deriving DecidableEq, Repr, Inhabited

end Manifest.Yaml
