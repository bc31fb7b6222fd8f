import MessageKeys.Proofs.Report.Verdict

/-!
# Messages that some documents lack

A key that leads to a message in the document that speaks for it may be missing from another
document of the namespace. Then it is partially translated, and the documents that lack it are
listed. Whether there are any is read off the least resolved reference alone, and this is enough:
that reference goes as far as the key exactly if all of them do.

## Main results

* `MessageKeys.Key.statusIn_eq_ite` — the status of a key by the candidate that speaks for it.
* `MessageKeys.Key.report_coverage` — when a key is partially translated, and what is listed then.
-/

namespace MessageKeys

namespace Key

variable {k : Key} {ns : String} {suppress : Bool} {candidates : List Candidate} {best : Candidate}

theorem classify_ne_partiallyTranslated (k : Key) (best? : Option Reference) (suppress : Bool) :
    k.classify best? suppress ≠ .partiallyTranslated := by
  cases best? <;> simp only [classify] <;> split_ifs <;> decide

theorem isResolved_of_isTranslated_classify {r : Reference}
    (h : (k.classify (some r) suppress).IsTranslated) : r.isResolved := by
  by_contra hr
  rw [classify_of_not_isResolved (Bool.eq_false_iff.mpr hr)] at h
  split_ifs at h <;> exact absurd h (by decide)

/-- A key that leads to a message in the candidate that speaks for it is partially translated as
soon as any candidate does not resolve it. -/
theorem statusIn_eq_ite (hkey : ∀ c ∈ candidates, c.reference.IsOf k.segments)
    (hbest : mostResolvedBy? Candidate.reference candidates = some best) :
    k.statusIn candidates suppress =
      if (k.classify (some best.reference) suppress).IsTranslated ∧
          ∃ c ∈ candidates, c.reference.isResolved = false then
        .partiallyTranslated
      else k.classify (some best.reference) suppress := by
  have hnil := List.ne_nil_of_mem (mostResolvedBy?_isEarliestBest hbest).mem
  obtain ⟨worst, hworst⟩ := exists_leastResolvedBy?_eq_some Candidate.reference hnil
  have hlack : worst.reference.isResolved = false ↔
      ∃ c ∈ candidates, c.reference.isResolved = false := by
    rw [← Bool.not_eq_true, isResolved_leastResolved_iff hkey hworst]
    simp
  rw [statusIn, hbest, hworst, Option.map_some, Option.map_some]
  by_cases hstatus : (k.classify (some best.reference) suppress).IsTranslated
  · cases hr : worst.reference.isResolved with
    | false =>
      rw [KeyStatus.checkCoverage_of_isTranslated hstatus hr, if_pos ⟨hstatus, hlack.mp hr⟩]
    | true =>
      rw [KeyStatus.checkCoverage_of_isResolved hr,
        if_neg fun h => Bool.eq_false_iff.mp (hlack.mpr h.2) hr]
  · rw [KeyStatus.checkCoverage_of_not_isTranslated hstatus, if_neg fun h => hstatus h.1]

theorem statusIn_eq_partiallyTranslated_iff
    (hkey : ∀ c ∈ candidates, c.reference.IsOf k.segments) :
    k.statusIn candidates suppress = .partiallyTranslated ↔
      (∃ best, mostResolvedBy? Candidate.reference candidates = some best ∧
        (k.classify (some best.reference) suppress).IsTranslated) ∧
      ∃ c ∈ candidates, c.reference.isResolved = false := by
  cases hbest : mostResolvedBy? Candidate.reference candidates with
  | none =>
    have hnil : candidates = [] := firstBy_eq_none_iff.mp hbest
    subst hnil
    rw [statusIn_nil]
    split_ifs <;> simp
  | some best =>
    rw [statusIn_eq_ite hkey hbest]
    simp only [Option.some_inj, exists_eq_left']
    split_ifs with h
    · exact iff_of_true rfl h
    · exact iff_of_false (classify_ne_partiallyTranslated k _ suppress) h

/-- A key of which a message is reported without reservation resolves in all candidates. -/
theorem isResolved_of_isTranslated_statusIn
    (hkey : ∀ c ∈ candidates, c.reference.IsOf k.segments)
    (h : (k.statusIn candidates suppress).IsTranslated) :
    ∀ c ∈ candidates, c.reference.isResolved := by
  intro c hc
  obtain ⟨best, hbest⟩ := exists_mostResolvedBy?_eq_some Candidate.reference
    (List.ne_nil_of_mem hc)
  rw [statusIn_eq_ite hkey hbest] at h
  split_ifs at h with hlack
  · exact absurd h (by decide)
  · by_contra hr
    exact hlack ⟨h, c, hc, Bool.eq_false_iff.mpr hr⟩

/-- **Coverage.** A key that has been looked up in some documents is partially translated exactly if
it leads to a message in the first of those in which it goes farthest, and some document does not
resolve it completely. Then the documents that do not are listed in their order, each by its locale
or else by its path; they are some of the documents, but not all. Otherwise nothing is listed. So a
key of which a message is reported without reservation resolves in all documents. -/
theorem report_coverage (k : Key) (rules : PluralRules) (documents : List Document) (ns : String)
    (suppress : Bool) :
    let found (d : Document) := d.tree.resolve rules k.segments
    let r := k.report ns (documents.map fun d => ⟨d, found d⟩) suppress
    (r.status = .partiallyTranslated ↔
      (∃ d, IsEarliestBest (fun d => (found d).path.length) documents d ∧
        (k.classify (some (found d)) suppress = .resolved ∨
          k.classify (some (found d)) suppress = .pluralReference)) ∧
      ∃ d ∈ documents, (found d).isResolved = false) ∧
    (r.status = .partiallyTranslated →
      r.missingIn = (documents.filter fun d => !(found d).isResolved).map
        (fun d => d.locale?.getD d.path.text) ∧
      r.missingIn ≠ [] ∧ r.missingIn.length < documents.length) ∧
    (r.status ≠ .partiallyTranslated → r.missingIn = []) ∧
    (r.status = .resolved ∨ r.status = .pluralReference →
      ∀ d ∈ documents, (found d).isResolved) := by
  intro found r
  have hkey : ∀ c ∈ documents.map (fun d => (⟨d, found d⟩ : Candidate)),
      c.reference.IsOf k.segments :=
    List.forall_mem_map.mpr fun d _ => Tree.path_append_unresolved ..
  have hstatus : r.status = .partiallyTranslated ↔
      (∃ d, IsEarliestBest (fun d => (found d).path.length) documents d ∧
        (k.classify (some (found d)) suppress).IsTranslated) ∧
      ∃ d ∈ documents, (found d).isResolved = false := by
    refine (statusIn_eq_partiallyTranslated_iff hkey).trans ?_
    simp only [mostResolvedBy?_map, Option.map_eq_some_iff, exists_exists_and_eq_and,
      mostResolvedBy?_eq_some_iff, List.mem_map]
  have hmissing (h : r.status = .partiallyTranslated) :
      r.missingIn = (documents.filter fun d => !(found d).isResolved).map
        (fun d => d.locale?.getD d.path.text) := by
    refine (if_pos h).trans ?_
    rw [List.filter_map, List.map_map]
    rfl
  refine ⟨hstatus, fun h => ?_, fun h => if_neg h, fun h c hc => ?_⟩
  · obtain ⟨⟨d, hd, hd'⟩, lacking, hlacking, hr⟩ := hstatus.mp h
    have hresolved := isResolved_of_isTranslated_classify hd'
    rw [hmissing h]
    refine ⟨rfl, ?_, ?_⟩
    · exact List.ne_nil_of_mem (List.mem_map_of_mem (List.mem_filter.mpr ⟨hlacking, by simp [hr]⟩))
    · rw [List.length_map]
      exact List.length_filter_lt_length_iff_exists.mpr ⟨d, hd.mem, by simp [hresolved]⟩
  · exact isResolved_of_isTranslated_statusIn hkey h _ (List.mem_map_of_mem hc)

end Key

end MessageKeys
