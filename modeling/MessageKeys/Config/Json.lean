import MessageKeys.Config.Basic
import MessageKeys.Json.Decode
import MessageKeys.Json.Printer
import MessageKeys.Json.Reader

/-!
# Configurations as JSON

A configuration is a record whose fields all have defaults. The messages root has a second name.

## Main definitions

* `MessageKeys.Config.toJson` — the JSON value of a configuration.
* `MessageKeys.Config.ofJson?` — the configuration that a JSON value gives.
* `MessageKeys.Config.ofText?` — the configuration that a text writes.
* `MessageKeys.Config.defaultText` — the text of the default configuration.
-/

namespace MessageKeys.Config

/-- The JSON value of a configuration. -/
def toJson (c : Config) : Json :=
  .object
    [("messagesRoot", .string c.messagesRoot),
      ("ignores", .ofTexts c.ignores),
      ("defaultNamespace", .string c.defaultNamespace),
      ("nsSeparator", .string (String.singleton c.nsSeparator)),
      ("keySeparator", .string (String.singleton c.keySeparator)),
      ("pluralSeparator", .string c.pluralSeparator),
      ("pluralVariants", .ofTexts c.pluralVariants),
      ("suppressUnresolvedDefaultNs", .bool c.suppressUnresolvedDefaultNs)]

/-- The names of the fields, in the order in which an array gives them. -/
def fieldNames : List String :=
  ["messagesRoot", "ignores", "defaultNamespace", "nsSeparator", "keySeparator", "pluralSeparator",
    "pluralVariants", "suppressUnresolvedDefaultNs"]

/-- The configuration that the fields of a record give. -/
def ofFields? (f : Json.Fields) : Option Config := do
  let messagesRoot ← f.getD? ["messagesRoot", "messagesDir"] Json.text? default.messagesRoot
  let ignores ← f.getD? ["ignores"] Json.texts? default.ignores
  let defaultNamespace ← f.getD? ["defaultNamespace"] Json.text? default.defaultNamespace
  let nsSeparator ← f.getD? ["nsSeparator"] Json.char? default.nsSeparator
  let keySeparator ← f.getD? ["keySeparator"] Json.char? default.keySeparator
  let pluralSeparator ← f.getD? ["pluralSeparator"] Json.text? default.pluralSeparator
  let pluralVariants ← f.getD? ["pluralVariants"] Json.texts? default.pluralVariants
  let suppressUnresolvedDefaultNs ←
    f.getD? ["suppressUnresolvedDefaultNs"] Json.truth? default.suppressUnresolvedDefaultNs
  return {
    messagesRoot, ignores, defaultNamespace, nsSeparator, keySeparator, pluralSeparator
    pluralVariants, suppressUnresolvedDefaultNs }

/-- The configuration that a JSON value gives. -/
def ofJson? (value : Json) : Option Config := (Json.fields? fieldNames value).bind ofFields?

/-- The configuration that a text writes. -/
def ofText? (text : String) : Option Config :=
  match Json.read .skimming text with
  | .ok value => ofJson? value
  | .error _ => none

/-- The text of the default configuration. -/
def defaultText : String := default.toJson.pretty

end MessageKeys.Config
