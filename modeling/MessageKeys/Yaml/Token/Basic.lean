/-!
# YAML tokens

A YAML text is a stream of tokens. Indentation shows as tokens that start and end block
collections, and a key that is only recognised by the colon behind it has a token before it.

## Main definitions

* `MessageKeys.Yaml.ScalarStyle` — whether a scalar is plain or not.
* `MessageKeys.Yaml.Token` — tokens.
-/

namespace MessageKeys.Yaml

/-- Whether a scalar is written plainly; quoted and block scalars are always texts. -/
inductive ScalarStyle where
  | plain
  | quoted
  deriving DecidableEq, Repr, Inhabited

/-- Tokens of a YAML text. -/
inductive Token where
  | streamEnd
  | versionDirective (major minor : Nat)
  | tagDirective (handle start : String)
  | documentStart
  | documentEnd
  | blockSequenceStart
  | blockMappingStart
  | blockEnd
  | flowSequenceStart
  | flowSequenceEnd
  | flowMappingStart
  | flowMappingEnd
  | blockEntry
  | flowEntry
  | key
  | value
  | alias (name : String)
  | anchor (name : String)
  | tag (handle suffix : String)
  | scalar (text : String) (style : ScalarStyle)
  deriving DecidableEq, Repr, Inhabited

end MessageKeys.Yaml
