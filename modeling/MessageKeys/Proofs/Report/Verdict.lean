import MessageKeys.Proofs.Report.Severity

/-!
# Which document speaks for a key

All documents of a namespace are asked for a key, and one of them speaks for it: the first that
resolves the key completely, or else the first of those in which the key goes farthest. Its file and
its message are reported, and it alone decides the status, up to the question whether other
documents lack a message that it has.

## Main definitions

* `MessageKeys.KeyStatus.IsTranslated` — the key leads to a message.

## Main results

* `MessageKeys.Key.statusIn_of_forall_not_isResolved` — the status of a key that no candidate
  resolves.
* `MessageKeys.Catalog.mostResolvedBy?_lookUp` — the candidate that speaks for a key, by its
  document.
* `MessageKeys.Catalog.reportOn_verdict` — the report on an expression.
-/

namespace MessageKeys

namespace KeyStatus

/-- Whether a status says that the key leads to a message. -/
def IsTranslated (status : KeyStatus) : Prop := status = resolved ∨ status = pluralReference

instance (status : KeyStatus) : Decidable status.IsTranslated :=
  inferInstanceAs (Decidable (_ ∨ _))

variable {status : KeyStatus} {worst : Reference} {worst? : Option Reference}

/-- Documents that lack a message matter only for a key that leads to one. -/
theorem checkCoverage_of_not_isTranslated (h : ¬ status.IsTranslated) :
    status.checkCoverage worst? = status := by
  cases status with
  | resolved => exact absurd (.inl rfl) h
  | pluralReference => exact absurd (.inr rfl) h
  | _ => rfl

theorem checkCoverage_of_isResolved (h : worst.isResolved) :
    status.checkCoverage (some worst) = status := by
  cases status <;> simp [checkCoverage, h]

theorem checkCoverage_of_isTranslated (hstatus : status.IsTranslated)
    (h : worst.isResolved = false) :
    status.checkCoverage (some worst) = partiallyTranslated := by
  rcases hstatus with rfl | rfl <;> simp [checkCoverage, h]

end KeyStatus

namespace Key

variable {k : Key} {ns : String} {suppress : Bool} {candidates : List Candidate} {best : Candidate}

/-! ### The status by one candidate -/

theorem isTemplate_parse {separators : Separators} {fragments : List Fragment} :
    (Key.parse separators fragments).isTemplate ↔ ∃ f ∈ fragments, f.isLiteral = false := by
  simp [Key.parse]

theorem classify_of_isResolved {r : Reference} (h : r.isResolved) :
    k.classify (some r) suppress =
      if r.isPlural then .pluralReference
      else if r.node.isLeaf then .resolved
      else if k.isTemplate then .partiallyResolved
      else .objectReference := by
  simp [classify, h]

theorem classify_of_not_isResolved {r : Reference} (h : r.isResolved = false) :
    k.classify (some r) suppress =
      if k.hasNamespace = false ∧ suppress = true ∧ r.unresolved.length = k.path.length then
        .suppressed
      else .unresolved := by
  simp [classify, h, and_assoc]

/-! ### The status of a key that does not resolve -/

/-- A key without candidates lacks its namespace, or else the default one. -/
theorem statusIn_nil (k : Key) (suppress : Bool) :
    k.statusIn [] suppress =
      if k.hasNamespace then .unresolvedNamespace else .missingDefaultNamespace := by
  cases hns : k.hasNamespace <;>
    simp [statusIn, classify, hns, mostResolvedBy?, leastResolvedBy?, firstBy,
      KeyStatus.checkCoverage]

/-- A key that no candidate resolves is passed over if it names no namespace, if that is asked for,
and if nothing of it resolves in any candidate; otherwise it is unresolved. -/
theorem statusIn_of_forall_not_isResolved (suppress : Bool)
    (hkey : ∀ c ∈ candidates, c.reference.IsOf k.segments) (hnil : candidates ≠ [])
    (hall : ∀ c ∈ candidates, c.reference.isResolved = false) :
    k.statusIn candidates suppress =
      if k.hasNamespace = false ∧ suppress = true ∧ ∀ c ∈ candidates, c.reference.path = [] then
        .suppressed
      else .unresolved := by
  obtain ⟨best, hbest⟩ := exists_mostResolvedBy?_eq_some Candidate.reference hnil
  have hmem := (mostResolvedBy?_isEarliestBest hbest).mem
  have hclassify : k.classify (some best.reference) suppress =
      if k.hasNamespace = false ∧ suppress = true ∧ ∀ c ∈ candidates, c.reference.path = [] then
        .suppressed
      else .unresolved := by
    rw [classify_of_not_isResolved (hall best hmem)]
    simp only [length_unresolved_eq_iff hkey hbest]
  rw [statusIn, hbest, Option.map_some, hclassify]
  apply KeyStatus.checkCoverage_of_not_isTranslated
  split_ifs <;> decide

/-! ### The report by the candidate that speaks for the key -/

theorem file?_report (h : mostResolvedBy? Candidate.reference candidates = some best) :
    (k.report ns candidates suppress).file? = some best.document.path := by
  rw [report, h]
  rfl

theorem value?_report (h : mostResolvedBy? Candidate.reference candidates = some best) :
    (k.report ns candidates suppress).value? =
      if best.reference.isResolved then best.reference.node.value? else none := by
  rw [report, h]
  rfl

theorem resolvedPath_report (h : mostResolvedBy? Candidate.reference candidates = some best) :
    (k.report ns candidates suppress).resolvedPath = best.reference.path := by
  rw [report, h]
  rfl

theorem unresolved_report (h : mostResolvedBy? Candidate.reference candidates = some best) :
    (k.report ns candidates suppress).unresolved = best.reference.unresolved := by
  rw [report, h]
  rfl

/-- A report divides the key into what resolved and what did not. -/
theorem resolvedPath_append_unresolved_report
    (hkey : ∀ c ∈ candidates, c.reference.IsOf k.segments) :
    (k.report ns candidates suppress).resolvedPath ++
      (k.report ns candidates suppress).unresolved = k.segments := by
  cases hbest : mostResolvedBy? Candidate.reference candidates with
  | none =>
    rw [report, hbest]
    rfl
  | some best =>
    rw [resolvedPath_report hbest, unresolved_report hbest]
    exact hkey best (mostResolvedBy?_isEarliestBest hbest).mem

end Key

namespace Catalog

variable {d : Document}

/-- The candidate that speaks for a key belongs to the document in which the key goes farthest. -/
theorem mostResolvedBy?_lookUp (catalog : Catalog) (config : Config) (k : Key) :
    let found (d : Document) := d.tree.resolve config.pluralRules k.segments
    mostResolvedBy? Candidate.reference (catalog.lookUp config k) =
      (mostResolvedBy? found (catalog.candidates (config.namespaceOf k))).map fun d =>
        ⟨d, found d⟩ :=
  mostResolvedBy?_map _ _

theorem mostResolvedBy?_lookUp_eq_some {catalog : Catalog} {config : Config} {k : Key}
    (h : mostResolvedBy? (fun d : Document => d.tree.resolve config.pluralRules k.segments)
      (catalog.candidates (config.namespaceOf k)) = some d) :
    mostResolvedBy? Candidate.reference (catalog.lookUp config k) =
      some ⟨d, d.tree.resolve config.pluralRules k.segments⟩ := by
  rw [mostResolvedBy?_lookUp, h, Option.map_some]

theorem leastResolvedBy?_lookUp (catalog : Catalog) (config : Config) (k : Key) :
    let found (d : Document) := d.tree.resolve config.pluralRules k.segments
    leastResolvedBy? Candidate.reference (catalog.lookUp config k) =
      (leastResolvedBy? found (catalog.candidates (config.namespaceOf k))).map fun d =>
        ⟨d, found d⟩ :=
  leastResolvedBy?_map _ _

/-- **The document that speaks for a key.** A report divides the key into what resolved and what did
not. Without a document of the namespace it names no file, and the status says whether the namespace
was the key's own. The first document that resolves the key completely gives the file and the
message, and decides the status up to the messages that other documents lack. If there is none, the
first of those in which the key goes farthest gives the file and what resolved; the key is then
passed over if it names no namespace, if that is asked for, and if nothing of it resolves in any
document, and it is unresolved otherwise. -/
theorem reportOn_verdict (catalog : Catalog) (config : Config) (fragments : List Fragment) :
    let k := Key.parse config.separators fragments
    let documents := catalog.candidates (config.namespaceOf k)
    let found (d : Document) := d.tree.resolve config.pluralRules k.segments
    let verdict := k.classify ((mostResolvedBy? found documents).map found)
      config.suppressUnresolvedDefaultNs
    let r := catalog.reportOn config fragments
    r.resolvedPath ++ r.unresolved = k.segments ∧
    r.status = verdict.checkCoverage ((leastResolvedBy? found documents).map found) ∧
    (documents = [] → r.file? = none ∧
      r.status = if k.hasNamespace then .unresolvedNamespace else .missingDefaultNamespace) ∧
    (∀ d, documents.find? (fun d => (found d).isResolved) = some d →
      r.file? = some d.path ∧ r.value? = (found d).node.value? ∧
      verdict =
        if (found d).isPlural then .pluralReference
        else if (found d).node.isLeaf then .resolved
        else if ∃ f ∈ fragments, f.isLiteral = false then .partiallyResolved
        else .objectReference) ∧
    (documents ≠ [] → (∀ d ∈ documents, (found d).isResolved = false) →
      r.value? = none ∧
      (∃ d, IsEarliestBest (fun d => (found d).path.length) documents d ∧
        r.file? = some d.path ∧ r.resolvedPath = (found d).path) ∧
      (r.status = .suppressed ↔
        k.hasNamespace = false ∧ config.suppressUnresolvedDefaultNs = true ∧
          ∀ d ∈ documents, (found d).path = []) ∧
      (r.status ≠ .suppressed → r.status = .unresolved)) := by
  intro k documents found verdict r
  have hkey := isOf_of_mem_lookUp catalog config k
  have hfound : ∀ d ∈ documents, (found d).IsOf k.segments :=
    fun d _ => Tree.path_append_unresolved ..
  have hreport : r = k.report (config.namespaceOf k) (catalog.lookUp config k)
      config.suppressUnresolvedDefaultNs := rfl
  have hstatus : r.status =
      k.statusIn (catalog.lookUp config k) config.suppressUnresolvedDefaultNs := rfl
  refine ⟨Key.resolvedPath_append_unresolved_report hkey, ?_, ?_, ?_, ?_⟩
  · rw [hstatus, Key.statusIn, mostResolvedBy?_lookUp, leastResolvedBy?_lookUp, Option.map_map,
      Option.map_map]
    rfl
  · intro hnil
    have hcandidates : catalog.lookUp config k = [] := List.map_eq_nil_iff.mpr hnil
    rw [hstatus, hcandidates, Key.statusIn_nil]
    refine ⟨?_, rfl⟩
    rw [hreport, hcandidates]
    rfl
  · intro d hd
    have hresolved := List.find?_some hd
    have hmost := mostResolvedBy?_eq_of_find? hfound hd
    have hbest := mostResolvedBy?_lookUp_eq_some hmost
    refine ⟨Key.file?_report hbest, ?_, ?_⟩
    · rw [hreport, Key.value?_report hbest, if_pos hresolved]
    · simp only [verdict, hmost, Option.map_some, Key.classify_of_isResolved hresolved, k,
        Key.isTemplate_parse]
  · intro hnil hall
    obtain ⟨d, hd⟩ := exists_mostResolvedBy?_eq_some found hnil
    have hmost := mostResolvedBy?_isEarliestBest hd
    have hbest := mostResolvedBy?_lookUp_eq_some hd
    have hunresolved := Key.statusIn_of_forall_not_isResolved config.suppressUnresolvedDefaultNs
      hkey (mt List.map_eq_nil_iff.mp hnil) (List.forall_mem_map.mpr hall)
    have hpath : (∀ c ∈ catalog.lookUp config k, c.reference.path = []) ↔
        ∀ d ∈ documents, (found d).path = [] := List.forall_mem_map
    refine ⟨?_, ⟨d, hmost, Key.file?_report hbest, Key.resolvedPath_report hbest⟩, ?_, ?_⟩
    · have hr : (found d).isResolved = false := hall d hmost.mem
      rw [hreport, Key.value?_report hbest, if_neg (Bool.eq_false_iff.mp hr)]
    · rw [hstatus, hunresolved, ← hpath]
      split_ifs with h
      · exact iff_of_true rfl h
      · exact iff_of_false (by decide) h
    · rw [hstatus, hunresolved]
      split_ifs <;> simp

end Catalog

end MessageKeys
