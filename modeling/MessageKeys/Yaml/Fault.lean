/-!
# Faults in YAML text

Why a text is not a YAML document that can be read.

## Main definitions

* `MessageKeys.Yaml.Fault` — the ways in which a text fails.
* `MessageKeys.Yaml.Fault.message` — what is said about a fault.
-/

namespace MessageKeys.Yaml

/-- The ways in which a text fails to be a YAML document. -/
inductive Fault where
  | controlCharacter
  | strayCharacter
  | strayTab
  | directive
  | version
  | repeatedDirective
  | anchorName
  | tagText
  | undefinedTagHandle
  | unclosedQuote
  | escape
  | blockHeader
  | missingColon
  | entryNotAllowed
  | keyNotAllowed
  | valueNotAllowed
  | colonInFlow
  | nodeExpected
  | entryExpected
  | keyExpected
  | commaExpected
  | documentStartExpected
  | severalDocuments
  | unknownAnchor
  | tooManyAliases
  | tooDeep
  | emptyTag
  | badScalar
  | numberTooLarge
  | repeatedKey
  deriving DecidableEq, Repr

/-- What is said about a fault. -/
def Fault.message : Fault → String
  | controlCharacter => "control characters are not allowed"
  | strayCharacter => "found a character that cannot start any token"
  | strayTab => "found a tab where indentation is expected"
  | directive => "found a malformed directive"
  | version => "found an incompatible version"
  | repeatedDirective => "found a repeated directive"
  | anchorName => "found a malformed anchor or alias"
  | tagText => "found a malformed tag"
  | undefinedTagHandle => "found an undefined tag handle"
  | unclosedQuote => "found the end of the document inside quotes"
  | escape => "found an unknown escape"
  | blockHeader => "found a malformed block scalar header"
  | missingColon => "could not find the expected colon"
  | entryNotAllowed => "sequence entries are not allowed in this context"
  | keyNotAllowed => "mapping keys are not allowed in this context"
  | valueNotAllowed => "mapping values are not allowed in this context"
  | colonInFlow => "found an unexpected colon"
  | nodeExpected => "did not find expected node content"
  | entryExpected => "did not find an expected entry"
  | keyExpected => "did not find an expected key"
  | commaExpected => "did not find an expected comma or closing bracket"
  | documentStartExpected => "did not find an expected document start"
  | severalDocuments => "found more than one document"
  | unknownAnchor => "found an unknown anchor"
  | tooManyAliases => "found too many aliases"
  | tooDeep => "found collections nested too deeply"
  | emptyTag => "found an empty tag"
  | badScalar => "found a scalar that does not fit its tag"
  | numberTooLarge => "found an integer that does not fit into 64 bits"
  | repeatedKey => "found a repeated key"

end MessageKeys.Yaml
