import MessageKeys.Proofs.Resolve.Reference
import MessageKeys.Proofs.Resolve.Selection
import MessageKeys.Report.Basic

/-!
# When a report is on an error

A report is on an error if there is no document of the namespace, or if no document of it resolves
the key completely. The second is passed over for a key that names no namespace and of which nothing
resolves in any document, if the configuration says so.

## Main results

* `MessageKeys.Key.severity?_statusIn_eq_error_iff` — when the status of a key is an error.
* `MessageKeys.Catalog.severity?_reportOn_eq_error_iff` — when the report on an expression is on an
  error.
-/

namespace MessageKeys

/-- A translation that some document lacks is no error. -/
theorem KeyStatus.severity?_checkCoverage_eq_error_iff (status : KeyStatus)
    (worst? : Option Reference) :
    (status.checkCoverage worst?).severity? = some .error ↔ status.severity? = some .error := by
  cases worst? with
  | none => cases status <;> rfl
  | some worst =>
    cases hworst : worst.isResolved <;> cases status <;> simp [checkCoverage, hworst, severity?]

namespace Key

variable {k : Key} {suppress : Bool}

theorem severity?_classify_some_eq_error_iff {best : Reference} :
    (k.classify (some best) suppress).severity? = some .error ↔
      best.isResolved = false ∧
        ¬ (k.hasNamespace = false ∧ suppress = true ∧ best.unresolved.length = k.path.length) := by
  cases hbest : best.isResolved with
  | true =>
    simp only [classify, hbest, if_true]
    split_ifs <;> simp [KeyStatus.severity?]
  | false =>
    simp only [classify, hbest, Bool.false_eq_true, if_false]
    split_ifs with h
    · simpa [KeyStatus.severity?, and_assoc] using h
    · simpa [KeyStatus.severity?, and_assoc] using h

variable {candidates : List Candidate} {best : Candidate}

/-- The most resolved reference leaves all segments unresolved exactly if nothing resolves in any
candidate. -/
theorem length_unresolved_eq_iff (hkey : ∀ c ∈ candidates, c.reference.IsOf k.segments)
    (hbest : mostResolvedBy? Candidate.reference candidates = some best) :
    best.reference.unresolved.length = k.path.length ↔
      ∀ c ∈ candidates, c.reference.path = [] := by
  have hmem := (mostResolvedBy?_isEarliestBest hbest).mem
  have h := congrArg List.length (hkey best hmem)
  rw [List.length_append, segments, List.length_map] at h
  rw [← path_mostResolved_eq_nil_iff hbest, ← List.length_eq_zero_iff]
  omega

/-- The status of a key is an error if it has no candidates, or if none of them resolves it
completely; the latter is passed over if nothing resolves of a key without a namespace. -/
theorem severity?_statusIn_eq_error_iff
    (hkey : ∀ c ∈ candidates, c.reference.IsOf k.segments) :
    (k.statusIn candidates suppress).severity? = some .error ↔
      candidates = [] ∨ (∀ c ∈ candidates, c.reference.isResolved = false) ∧
        ¬ (k.hasNamespace = false ∧ suppress = true ∧ ∀ c ∈ candidates, c.reference.path = []) := by
  rw [statusIn, KeyStatus.severity?_checkCoverage_eq_error_iff]
  cases hbest : mostResolvedBy? Candidate.reference candidates with
  | none =>
    have hnil : candidates = [] := firstBy_eq_none_iff.mp hbest
    cases hns : k.hasNamespace <;> simp [classify, hns, KeyStatus.severity?, hnil]
  | some best =>
    have hmem := (mostResolvedBy?_isEarliestBest hbest).mem
    have hresolved : best.reference.isResolved = false ↔
        ∀ c ∈ candidates, c.reference.isResolved = false := by
      rw [← Bool.not_eq_true, isResolved_mostResolved_iff hkey hbest]
      simp
    rw [Option.map_some, severity?_classify_some_eq_error_iff, hresolved,
      length_unresolved_eq_iff hkey hbest]
    simp [List.ne_nil_of_mem hmem]

end Key

namespace Catalog

/-- The references that are looked up are those of the key. -/
theorem isOf_of_mem_lookUp (catalog : Catalog) (config : Config) (k : Key) :
    ∀ c ∈ catalog.lookUp config k, c.reference.IsOf k.segments := by
  intro c hc
  obtain ⟨d, -, rfl⟩ := List.mem_map.mp hc
  exact Tree.path_append_unresolved ..

/-- The report on an expression is on an error if there is no document of its namespace, or if
none resolves its key completely, unless that is passed over. -/
theorem severity?_reportOn_eq_error_iff (catalog : Catalog) (config : Config)
    (fragments : List Fragment) :
    let k := Key.parse config.separators fragments
    let documents := catalog.candidates (config.namespaceOf k)
    (catalog.reportOn config fragments).severity? = some .error ↔
      documents = [] ∨
      (∀ d ∈ documents, (d.tree.resolve config.pluralRules k.segments).isResolved = false) ∧
        ¬ (k.hasNamespace = false ∧ config.suppressUnresolvedDefaultNs = true ∧
          ∀ d ∈ documents, (d.tree.resolve config.pluralRules k.segments).path = []) := by
  intro k documents
  change (k.statusIn (catalog.lookUp config k) config.suppressUnresolvedDefaultNs).severity? = _ ↔ _
  rw [Key.severity?_statusIn_eq_error_iff (isOf_of_mem_lookUp catalog config k), lookUp,
    List.map_eq_nil_iff, List.forall_mem_map, List.forall_mem_map]

end Catalog

end MessageKeys
