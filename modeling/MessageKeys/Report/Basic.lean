import MessageKeys.Key.Span
import MessageKeys.Report.Lookup
import MessageKeys.Resolve.Status

/-!
# Reports on keys

What is said about one key after it has been looked up. The candidate whose reference is the most
resolved speaks for the key; the others count only where they lack a message that it has.

## Main definitions

* `MessageKeys.KeyReport` — a report.
* `MessageKeys.Key.report` — the report on a key with its candidates.
* `MessageKeys.Catalog.reportOn` — the report on a key expression.
-/

namespace MessageKeys

/-- What is said about a key. -/
structure KeyReport where
  /-- The key as evaluated. -/
  key : String
  source : String
  /-- The namespace in which the key was looked up. -/
  ns : String
  status : KeyStatus
  resolvedPath : List String
  unresolved : List String
  /-- The text of the message that the key leads to. -/
  value? : Option String
  /-- The document that speaks for the key. -/
  file? : Option Path
  /-- The locales, or else the paths, of the documents that lack the message. -/
  missingIn : List String
  /-- The part of the source that is at fault. -/
  highlight : Span
  deriving DecidableEq, Repr

namespace KeyReport

/-- How serious the status is. -/
def severity? (r : KeyReport) : Option Severity := r.status.severity?

/-- Whether the report is on a problem of some severity. -/
def isOf (severity : Severity) (r : KeyReport) : Bool := r.severity? == some severity

end KeyReport

/-- How a document is called in a list of documents: by its locale, or else by its path. -/
def Document.label (d : Document) : String := d.locale?.getD d.path.text

namespace Key

/-- The status of a key with its candidates. -/
def statusIn (k : Key) (candidates : List Candidate) (suppress : Bool) : KeyStatus :=
  (k.classify ((mostResolvedBy? Candidate.reference candidates).map Candidate.reference)
      suppress).checkCoverage
    ((leastResolvedBy? Candidate.reference candidates).map Candidate.reference)

/-- The part of a key that is at fault, if `resolved` segments of its path resolved. -/
def highlight (k : Key) (status : KeyStatus) (resolved : Nat) : Span :=
  match status with
  | .unresolved => k.unresolvedSpan resolved
  | .unresolvedNamespace => k.namespaceSpan?.getD k.fullSpan
  | _ => k.fullSpan

/-- The report on a key with its candidates. -/
def report (k : Key) (ns : String) (candidates : List Candidate) (suppress : Bool) : KeyReport :=
  let best? := mostResolvedBy? Candidate.reference candidates
  let status := k.statusIn candidates suppress
  let resolvedPath := (best?.map fun best => best.reference.path).getD []
  { key := k.text
    source := k.source
    ns
    status
    resolvedPath
    unresolved := (best?.map fun best => best.reference.unresolved).getD k.segments
    value? := best?.bind fun best =>
      if best.reference.isResolved then best.reference.node.value? else none
    file? := best?.map fun best => best.document.path
    missingIn :=
      if status = .partiallyTranslated then
        (candidates.filter fun c => !c.reference.isResolved).map fun c => c.document.label
      else []
    highlight := k.highlight status resolvedPath.length }

end Key

/-- The report on a key expression. -/
def Catalog.reportOn (catalog : Catalog) (config : Config) (fragments : List Fragment) :
    KeyReport :=
  let k := Key.parse config.separators fragments
  k.report (config.namespaceOf k) (catalog.lookUp config k) config.suppressUnresolvedDefaultNs

end MessageKeys
