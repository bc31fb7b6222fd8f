import MessageKeys.Key.Basic
import MessageKeys.Resolve.Selection

/-!
# The status of a key

What is to be said about a key once it has been looked up in the documents of its namespace.

## Main definitions

* `MessageKeys.KeyStatus` — the verdicts, with their names and messages.
* `MessageKeys.Severity`, `MessageKeys.KeyStatus.severity?` — how serious a verdict is.
* `MessageKeys.Key.classify` — the verdict by the most resolved reference.
* `MessageKeys.KeyStatus.checkCoverage` — the verdict in view of the least resolved reference.
-/

namespace MessageKeys

/-- How serious a verdict is. -/
inductive Severity where
  | error
  | warning
  deriving DecidableEq, Repr

/-- The name of a severity. -/
def Severity.name : Severity → String
  | error => "error"
  | warning => "warning"

/-- The verdict on a key. -/
inductive KeyStatus where
  /-- The key leads to a leaf. -/
  | resolved
  /-- The last segment resolved to a plural form only. -/
  | pluralReference
  /-- The value of a template leads to a branch. -/
  | partiallyResolved
  /-- The key leads to a branch, which is no message. -/
  | objectReference
  /-- The key resolves in some documents and is missing from others. -/
  | partiallyTranslated
  /-- Some segments at the end are missing. -/
  | unresolved
  /-- There is no document of the namespace that the key names. -/
  | unresolvedNamespace
  /-- The key names no namespace, and there is no document of the default one. -/
  | missingDefaultNamespace
  /-- Nothing resolved in the default namespace, and that is not to be reported. -/
  | suppressed
  deriving DecidableEq, Repr

namespace KeyStatus

/-- The name of a verdict, its words joined by hyphens. -/
def name : KeyStatus → String
  | resolved => "resolved"
  | pluralReference => "plural-reference"
  | partiallyResolved => "partially-resolved"
  | objectReference => "object-reference"
  | partiallyTranslated => "partially-translated"
  | unresolved => "unresolved"
  | unresolvedNamespace => "unresolved-namespace"
  | missingDefaultNamespace => "missing-default-namespace"
  | suppressed => "suppressed"

/-- What is said about a verdict. -/
def message : KeyStatus → String
  | resolved => "resolved"
  | pluralReference => "reference to plural forms"
  | partiallyResolved => "partially resolved template"
  | objectReference => "reference to object"
  | partiallyTranslated => "partially translated"
  | unresolved => "unresolved key"
  | unresolvedNamespace => "unresolved namespace"
  | missingDefaultNamespace => "missing default namespace"
  | suppressed => "unresolved in default namespace (suppressed)"

/-- How serious a verdict is; the others report no problem. -/
def severity? : KeyStatus → Option Severity
  | unresolved | unresolvedNamespace | missingDefaultNamespace => some .error
  | objectReference | partiallyTranslated => some .warning
  | resolved | pluralReference | partiallyResolved | suppressed => none

/-- The verdict in view of the least resolved reference: a key that leads to a message counts as
partially translated if some document lacks it. -/
def checkCoverage (status : KeyStatus) (worst? : Option Reference) : KeyStatus :=
  match status, worst? with
  | resolved, some worst => if worst.isResolved then resolved else partiallyTranslated
  | pluralReference, some worst =>
    if worst.isResolved then pluralReference else partiallyTranslated
  | status, _ => status

end KeyStatus

/-- The verdict on a key by its most resolved reference, which is absent if there is no document
of its namespace. With `suppress`, a key that names no namespace and resolves not at all is not to
be reported. -/
def Key.classify (k : Key) (best? : Option Reference) (suppress : Bool) : KeyStatus :=
  match best? with
  | none => if k.hasNamespace then .unresolvedNamespace else .missingDefaultNamespace
  | some best =>
    if best.isResolved then
      if best.isPlural then .pluralReference
      else if best.node.isLeaf then .resolved
      else if k.isTemplate then .partiallyResolved
      else .objectReference
    else if !k.hasNamespace && suppress && best.unresolved.length == k.path.length then .suppressed
    else .unresolved

end MessageKeys
