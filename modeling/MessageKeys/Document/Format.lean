/-!
# Document formats

The formats in which documents of messages are written, and the extensions of their files.

## Main definitions

* `MessageKeys.Format` — the formats.
* `MessageKeys.Format.ofExtension?` — the format of the files with an extension.
-/

namespace MessageKeys

/-- The format of a document. -/
inductive Format where
  | json
  | yaml
  deriving DecidableEq, Repr

namespace Format

/-- The name of a format. -/
def name : Format → String
  | json => "json"
  | yaml => "yaml"

/-- The format of the files with an extension, in which the case of ASCII letters does not
matter. -/
def ofExtension? (extension : String) : Option Format :=
  match String.ofList (extension.toList.map Char.toLower) with
  | "json" => some json
  | "yaml" | "yml" => some yaml
  | _ => none

end Format

end MessageKeys
