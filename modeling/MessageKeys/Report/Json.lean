import MessageKeys.Json.Printer
import MessageKeys.Report.Basic

/-!
# Reports as JSON

Reports and completions for other programs.

## Main definitions

* `MessageKeys.KeyReport.toJson`, `MessageKeys.reportsJson` — reports as JSON values.
* `MessageKeys.completionsJson` — what can follow a partly typed key, as a JSON value.
-/

namespace MessageKeys

/-- The JSON value of a span. -/
def Span.toJson (s : Span) : Json := .object [("start", .ofNat s.start), ("end", .ofNat s.stop)]

/-- The JSON value of a report. -/
def KeyReport.toJson (r : KeyReport) : Json :=
  .object
    [("key", .string r.key),
      ("source", .string r.source),
      ("namespace", .string r.ns),
      ("status", .string r.status.name),
      ("severity", .ofText? (r.severity?.map Severity.name)),
      ("resolvedPath", .ofTexts r.resolvedPath),
      ("unresolved", .ofTexts r.unresolved),
      ("value", .ofText? r.value?),
      ("file", .ofText? (r.file?.map Path.text)),
      ("missingIn", .ofTexts r.missingIn),
      ("highlight", r.highlight.toJson)]

/-- The JSON value of some reports. -/
def reportsJson (reports : List KeyReport) : Json := .array (reports.map KeyReport.toJson)

/-- The JSON value of a partly typed key with what can follow it. -/
def completionsJson (typed : String) (variants : List String) : Json :=
  .object
    [("key", .string typed),
      ("variants", .ofTexts variants),
      ("completions", .ofTexts (variants.map (typed ++ ·)))]

end MessageKeys
