import MessageKeys.Proofs.Key.Slice
import MessageKeys.Proofs.Report.Verdict
import MessageKeys.Report.Text

/-!
# What is underlined

A report highlights the part of the source that is at fault: of a key that does not resolve, all
from the first segment that is missing; the namespace, if there is no document of it; and the whole
source otherwise. In the text of a report with a problem, the source stands on a line of its own
behind a bar, and below it there are carets under the part that is highlighted.

## Main definitions

* `MessageKeys.KeyReport.underlined` — the source with carets below the highlight.
* `MessageKeys.isBarred` — a line that starts with the bar in front of the source.

## Main results

* `MessageKeys.Key.highlight_within` — the highlight lies within the key.
* `MessageKeys.Key.length_resolvedPath_lt` — a segment is missing from a key that does not resolve.
* `MessageKeys.KeyReport.exists_lines_eq` — which lines of a report have the bar.
* `MessageKeys.Catalog.reportOn_highlight` — what a report underlines.
-/

namespace MessageKeys

namespace Key

variable {k : Key} {ns : String} {suppress : Bool} {candidates : List Candidate}

/-! ### The highlight -/

/-- The highlight lies within the key. -/
theorem highlight_within (k : Key) (status : KeyStatus) (resolved : Nat) :
    (k.highlight status resolved).start ≤ (k.highlight status resolved).stop ∧
      (k.highlight status resolved).stop ≤ k.length := by
  have hfull : k.fullSpan.start ≤ k.fullSpan.stop ∧ k.fullSpan.stop ≤ k.length :=
    ⟨Nat.zero_le _, Nat.le_refl _⟩
  cases status with
  | unresolved =>
    simp only [highlight, unresolvedSpan]
    split_ifs with h
    · exact ⟨tokenStart_le_length h, Nat.le_refl _⟩
    · exact ⟨Nat.le_refl _, Nat.le_refl _⟩
  | unresolvedNamespace =>
    cases hns : k.ns? with
    | none => simpa [highlight, namespaceSpan?, hns] using hfull
    | some ns =>
      have hle := nsLength_le_length k
      simp only [nsLength, hns, Option.map_some, Option.getD_some] at hle
      simpa [highlight, namespaceSpan?, hns] using hle
  | _ => exact hfull

/-! ### What the status says about the candidates -/

/-- A key is unresolved only if there is a candidate that speaks for it and does not resolve it. -/
theorem exists_best_of_unresolved (hkey : ∀ c ∈ candidates, c.reference.IsOf k.segments)
    (h : k.statusIn candidates suppress = .unresolved) :
    ∃ best, mostResolvedBy? Candidate.reference candidates = some best ∧
      best.reference.isResolved = false := by
  have herror : (k.statusIn candidates suppress).severity? = some .error := by rw [h]; rfl
  rcases (severity?_statusIn_eq_error_iff hkey).mp herror with rfl | ⟨hall, -⟩
  · rw [statusIn_nil] at h
    split_ifs at h
  · by_cases hnil : candidates = []
    · rw [hnil, statusIn_nil] at h
      split_ifs at h
    · obtain ⟨best, hbest⟩ := exists_mostResolvedBy?_eq_some Candidate.reference hnil
      exact ⟨best, hbest, hall best (mostResolvedBy?_isEarliestBest hbest).mem⟩

/-- Only a namespace that a key names is reported as missing. -/
theorem hasNamespace_of_unresolvedNamespace
    (hkey : ∀ c ∈ candidates, c.reference.IsOf k.segments)
    (h : k.statusIn candidates suppress = .unresolvedNamespace) : k.hasNamespace := by
  have herror : (k.statusIn candidates suppress).severity? = some .error := by rw [h]; rfl
  by_cases hnil : candidates = []
  · rw [hnil, statusIn_nil] at h
    split_ifs at h with hns
    exact hns
  · rcases (severity?_statusIn_eq_error_iff hkey).mp herror with hnil' | ⟨hall, -⟩
    · exact absurd hnil' hnil
    · rw [statusIn_of_forall_not_isResolved suppress hkey hnil hall] at h
      split_ifs at h

/-- What did not resolve is the key without what did. -/
theorem unresolved_report_eq_drop (hkey : ∀ c ∈ candidates, c.reference.IsOf k.segments) :
    (k.report ns candidates suppress).unresolved =
      k.segments.drop (k.report ns candidates suppress).resolvedPath.length := by
  have hsegments : (k.report ns candidates suppress).resolvedPath ++
      (k.report ns candidates suppress).unresolved = k.segments :=
    resolvedPath_append_unresolved_report hkey
  rw [← hsegments, List.drop_left]

/-- A segment is missing from a key that is unresolved. -/
theorem length_resolvedPath_lt (hkey : ∀ c ∈ candidates, c.reference.IsOf k.segments)
    (h : (k.report ns candidates suppress).status = .unresolved) :
    (k.report ns candidates suppress).resolvedPath.length < k.path.length := by
  obtain ⟨best, hbest, hresolved⟩ := exists_best_of_unresolved hkey h
  have hlt : best.reference.path.length < k.segments.length := by
    have hof := hkey best (mostResolvedBy?_isEarliestBest hbest).mem
    rw [← Nat.not_le, ← hof.isResolved_iff, hresolved]
    exact Bool.false_ne_true
  rw [resolvedPath_report hbest]
  rwa [segments, List.length_map] at hlt

end Key

/-! ### Lines with a bar -/

/-- Whether a line starts with the bar that stands in front of the source. -/
def isBarred (line : String) : Bool := "   |".toList.isPrefixOf line.toList

theorem join_replicate (n : Nat) (c : Char) :
    String.join (List.replicate n (String.singleton c)) = String.ofList (List.replicate n c) := by
  induction n with
  | zero => rfl
  | succ n ih =>
    rw [List.replicate_succ, String.join_cons, ih, ← String.toList_inj]
    simp [List.replicate_succ]

namespace KeyReport

/-- The source of a report with carets below the highlight: as many as that takes columns, and one
at least, behind as many blanks as what is before it takes columns. -/
def underlined (r : KeyReport) (width : String → Nat) : List String :=
  ["   |",
    "   | " ++ r.source,
    "   | " ++
      String.ofList (List.replicate (width (Span.slice ⟨0, r.highlight.start⟩ r.source)) ' ') ++
      String.ofList (List.replicate (max 1 (width (r.highlight.slice r.source))) '^')]

theorem sourceLines_eq_underlined (r : KeyReport) (severity : Severity) (width : String → Nat) :
    r.sourceLines severity width false = r.underlined width := by
  have hcarets (n : Nat) : String.join (List.replicate n (severity.style.apply false "^")) =
      String.ofList (List.replicate n '^') := join_replicate n '^'
  have hbar (line : String) : marked "|" false line = "   |" ++ line := rfl
  have hblank (line : String) : "   |" ++ (" " ++ line) = "   | " ++ line := by
    rw [← String.append_assoc]
    rfl
  simp only [sourceLines, hcarets, hbar, hblank, String.append_assoc, underlined, Span.slice]
  rfl

theorem isBarred_factLine (name text : String) : isBarred (factLine name text false) = false := by
  simp [isBarred, factLine, marked, Style.apply, List.isPrefixOf]

theorem isBarred_of_mem_listLine {name separator line : String} {items : List String}
    (h : line ∈ listLine name separator items false) : isBarred line = false := by
  rw [listLine] at h
  split_ifs at h
  · cases h
  · obtain rfl := List.mem_singleton.mp h
    exact isBarred_factLine ..

theorem isBarred_head_append (r : KeyReport) (text : String) :
    isBarred (r.head false ++ text) = false := by
  rw [isBarred, head]
  cases r.severity? with
  | none => simp [Style.apply, successMark, List.isPrefixOf]
  | some severity => cases severity <;> simp [Style.apply, List.isPrefixOf]

theorem isBarred_fileLine (r : KeyReport) : isBarred (r.fileLine false) = false := by
  simp [isBarred, fileLine, Style.apply, List.isPrefixOf]

/-- What is known about the key, below the source. -/
def facts (r : KeyReport) : List String :=
  listLine "resolved:" "." r.resolvedPath false ++ listLine "missing:" "." r.unresolved false ++
    (r.value?.map fun value => factLine "value:" (quotedMessage value) false).toList ++
    listLine "missing in:" ", " r.missingIn false ++ [""]

theorem isBarred_of_mem_facts {r : KeyReport} {line : String} (h : line ∈ r.facts) :
    isBarred line = false := by
  simp only [facts, List.mem_append, Option.mem_toList, Option.map_eq_some_iff,
    List.mem_singleton] at h
  rcases h with (((h | h) | ⟨value, -, rfl⟩) | h) | rfl
  · exact isBarred_of_mem_listLine h
  · exact isBarred_of_mem_listLine h
  · exact isBarred_factLine ..
  · exact isBarred_of_mem_listLine h
  · decide

/-- The lines of a report that have a bar are its source with the carets below, and only a report
on a problem has them. -/
theorem exists_lines_eq (r : KeyReport) (width : String → Nat) :
    ∃ above below,
      r.lines width false =
          above ++ (if r.severity?.isSome then r.underlined width else []) ++ below ∧
        ∀ line ∈ above ++ below, isBarred line = false := by
  refine ⟨[r.head false ++ (" \"" ++ r.key ++ "\"  " ++ r.status.message), r.fileLine false],
    r.facts, ?_, ?_⟩
  · simp only [lines, facts]
    cases r.severity? with
    | none => cases r.value? <;> simp [String.append_assoc, Style.apply]
    | some severity =>
      cases r.value? <;> simp [sourceLines_eq_underlined, String.append_assoc, Style.apply]
  · simp only [List.forall_mem_append, List.forall_mem_cons]
    exact ⟨⟨isBarred_head_append .., isBarred_fileLine r, by simp⟩, fun _ => isBarred_of_mem_facts⟩

end KeyReport

/-- The line below all reports has no bar. -/
theorem isBarred_summaryLine (reports : List KeyReport) (documents : Nat) :
    isBarred (summaryLine reports documents false) = false := by
  rw [isBarred, summaryLine]
  split_ifs <;> simp [Style.apply, successMark, failureMark, List.isPrefixOf]

/-! ### What a report underlines -/

namespace Catalog

variable (catalog : Catalog) (config : Config) (text : String)

/-- An unresolved literal shows the segments that are missing, up to its end. -/
theorem slice_highlight_of_unresolved
    (h : (catalog.reportOn config [.literal text]).status = .unresolved) :
    let r := catalog.reportOn config [.literal text]
    r.highlight.slice text =
        String.intercalate (String.singleton config.keySeparator) r.unresolved ∧
      r.highlight.stop = text.length := by
  intro r
  let k := Key.parseLiteral config.separators text
  have hkey := isOf_of_mem_lookUp catalog config k
  have hlt : r.resolvedPath.length < k.path.length := Key.length_resolvedPath_lt hkey h
  have hunresolved : r.unresolved = k.segments.drop r.resolvedPath.length :=
    Key.unresolved_report_eq_drop hkey
  have hhighlight : r.highlight = k.unresolvedSpan r.resolvedPath.length := by
    change k.highlight r.status r.resolvedPath.length = _
    rw [h, Key.highlight]
  rw [hhighlight, hunresolved]
  refine ⟨Key.slice_unresolvedSpan config.separators text hlt, ?_⟩
  rw [Key.unresolvedSpan, if_pos hlt]
  exact Key.length_parseLiteral config.separators text

/-- A literal without documents of its namespace shows the namespace. -/
theorem slice_highlight_of_unresolvedNamespace
    (h : (catalog.reportOn config [.literal text]).status = .unresolvedNamespace) :
    (Key.parseLiteral config.separators text).namespaceText? =
      some ((catalog.reportOn config [.literal text]).highlight.slice text) := by
  let k := Key.parseLiteral config.separators text
  have hkey := isOf_of_mem_lookUp catalog config k
  have hnamed : k.hasNamespace := Key.hasNamespace_of_unresolvedNamespace hkey h
  obtain ⟨ns, hns⟩ := Option.isSome_iff_exists.mp hnamed
  have hhighlight : (catalog.reportOn config [.literal text]).highlight = ⟨0, ns.length⟩ := by
    change k.highlight (catalog.reportOn config [.literal text]).status _ = _
    simp only [h, Key.highlight, Key.namespaceSpan?, hns, Option.map_some, Option.getD_some]
  rw [hhighlight, Key.slice_namespaceSpan config.separators text hns, Key.namespaceText?]
  exact congrArg (Option.map Token.text) hns

/-- Any other literal shows all of it. -/
theorem slice_highlight_of_ne (h : (catalog.reportOn config [.literal text]).status ≠ .unresolved)
    (hns : (catalog.reportOn config [.literal text]).status ≠ .unresolvedNamespace) :
    (catalog.reportOn config [.literal text]).highlight.slice text = text := by
  let k := Key.parseLiteral config.separators text
  have hhighlight : (catalog.reportOn config [.literal text]).highlight = ⟨0, text.length⟩ := by
    have hfull : k.fullSpan = ⟨0, text.length⟩ :=
      congrArg (Span.mk 0) (Key.length_parseLiteral config.separators text)
    rw [← hfull]
    change k.highlight (catalog.reportOn config [.literal text]).status _ = _
    cases hstatus : (catalog.reportOn config [.literal text]).status with
    | unresolved => exact absurd hstatus h
    | unresolvedNamespace => exact absurd hstatus hns
    | _ => rfl
  rw [hhighlight, Span.slice_full]

/-- **What a report underlines.** As long as the separators of each value fit into its source, the
highlight of a report lies within the source. For a literal it is, if the key is unresolved, the
segments that are missing with their separators, up to the end of the source; if there is no
document of its namespace, the namespace; and otherwise the whole source. In text without colours,
however many columns a text takes, a report on a problem has the source on a line behind a bar and
carets below the highlight on the next, no other line of it has a bar, and no line of a report
without a problem has one. -/
theorem reportOn_highlight (catalog : Catalog) (config : Config) :
    (∀ fragments, (Reading.ofFragments config.separators fragments).Fits fragments →
      let r := catalog.reportOn config fragments
      r.highlight.start ≤ r.highlight.stop ∧ r.highlight.stop ≤ r.source.length) ∧
    (∀ text,
      let r := catalog.reportOn config [.literal text]
      r.source = text ∧
      (r.status = .unresolved →
        r.highlight.slice text =
            String.intercalate (String.singleton config.keySeparator) r.unresolved ∧
          r.highlight.stop = text.length) ∧
      (r.status = .unresolvedNamespace →
        (Key.parseLiteral config.separators text).namespaceText? =
          some (r.highlight.slice text)) ∧
      (r.status ≠ .unresolved → r.status ≠ .unresolvedNamespace →
        r.highlight.slice text = text)) ∧
    (∀ (r : KeyReport) (width : String → Nat), ∃ above below,
      r.lines width false =
          above ++ (if r.severity?.isSome then r.underlined width else []) ++ below ∧
        ∀ line ∈ above ++ below, isBarred line = false) ∧
    ∀ (reports : List KeyReport) (documents : Nat) (width : String → Nat), ∃ last,
      isBarred last = false ∧
      reportsText reports documents width false =
        linesText (reports.flatMap (KeyReport.lines · width false) ++ [last]) := by
  refine ⟨fun fragments hfits => ?_, fun text => ?_, KeyReport.exists_lines_eq, ?_⟩
  · let k := Key.parse config.separators fragments
    have hlength : k.length = k.source.length := Key.length_parse_of_fits hfits
    have hwithin := k.highlight_within (catalog.reportOn config fragments).status
      (catalog.reportOn config fragments).resolvedPath.length
    rwa [hlength] at hwithin
  · exact ⟨Key.source_parseLiteral config.separators text,
      slice_highlight_of_unresolved catalog config text,
      slice_highlight_of_unresolvedNamespace catalog config text,
      slice_highlight_of_ne catalog config text⟩
  · exact fun reports documents width => ⟨_, isBarred_summaryLine reports documents, rfl⟩

/-- The last segment is missing and empty: the highlight is empty and stands behind the source. -/
example :
    let value : Json := .object [("menu", .object [])]
    let document : Document := ⟨⟨["common.json"]⟩, "common", none, .json value⟩
    let r := (ofDocuments [document]).reportOn .default [.literal "common:menu."]
    r.highlight = ⟨12, 12⟩ := by
  decide +kernel

end Catalog

end MessageKeys
