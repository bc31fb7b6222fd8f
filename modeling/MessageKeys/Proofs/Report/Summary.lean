import MessageKeys.Report.Text

/-!
# What the text of reports counts

The line below all reports says how many problems of each severity there are, or that there are
none. The numbers are those of the reports whose first line starts with the mark of the severity.

## Main definitions

* `MessageKeys.KeyReport.isHeaded` — the first line of a report starts with the mark of a severity.
* `MessageKeys.problemsLine`, `MessageKeys.noProblemsLine` — the two lines that can stand below all
  reports.

## Main results

* `MessageKeys.KeyReport.isHeaded_eq_isOf` — a report is headed by the mark of its severity.
* `MessageKeys.summaryLine_eq_noProblemsLine_iff`, `MessageKeys.summaryLine_eq_problemsLine` — which
  of the two lines stands there.
-/

namespace MessageKeys

/-! ### The first lines of reports -/

/-- The mark in front of the reports of a severity. -/
def Severity.mark (severity : Severity) (colours : Bool) : String :=
  match severity with
  | error => Style.boldRed.apply colours "error:"
  | warning => Style.boldYellow.apply colours "warning:"

namespace KeyReport

/-- Whether the first line of a report starts with the mark of a severity. -/
def isHeaded (severity : Severity) (width : String → Nat) (colours : Bool) (r : KeyReport) : Bool :=
  (r.lines width colours).head?.any fun line =>
    (severity.mark colours).toList.isPrefixOf line.toList

theorem head?_lines (r : KeyReport) (width : String → Nat) (colours : Bool) :
    ∃ rest, (r.lines width colours).head? = some (r.head colours ++ rest) :=
  ⟨" \"" ++ r.key ++ "\"  " ++ Style.dimmedCyan.apply colours r.status.message, by
    simp [lines, String.append_assoc]⟩

/-- A report is headed by the mark of its severity and by no other. -/
theorem isHeaded_eq_isOf (severity : Severity) (width : String → Nat) (colours : Bool)
    (r : KeyReport) : r.isHeaded severity width colours = r.isOf severity := by
  obtain ⟨rest, hrest⟩ := r.head?_lines width colours
  rw [isHeaded, hrest, Option.any_some, String.toList_append, head, isOf]
  cases r.severity? with
  | none => cases severity <;> cases colours <;> rfl
  | some own => cases own <;> cases severity <;> cases colours <;> rfl

end KeyReport

/-! ### The line below all reports -/

/-- The line below reports on some problems. -/
def problemsLine (errors warnings : Nat) (colours : Bool) : String :=
  Style.red.apply colours failureMark ++ " " ++ (errors + warnings).repr ++ " problems (" ++
    errors.repr ++ " " ++ Style.red.apply colours (counted errors "error" "errors") ++ ", " ++
    warnings.repr ++ " " ++ Style.yellow.apply colours (counted warnings "warning" "warnings") ++
    ")"

/-- The line below reports on no problem. -/
def noProblemsLine (keys documents : Nat) (colours : Bool) : String :=
  Style.green.apply colours successMark ++ " " ++
    Style.green.apply colours
      ("Resolved " ++ keys.repr ++ " " ++ counted keys "key" "keys" ++ " against " ++
        documents.repr ++ " translation " ++ counted documents "file" "files" ++
        " - no problems found")

theorem problemsLine_ne_noProblemsLine (errors warnings keys documents : Nat) (colours : Bool) :
    problemsLine errors warnings colours ≠ noProblemsLine keys documents colours := by
  intro h
  -- The marks differ in the fourth character if there are colours, and in the first otherwise.
  have hmark := congrArg (fun line => line.toList.take 4) h
  simp only [problemsLine, noProblemsLine, String.append_assoc] at hmark
  simp only [String.toList_append] at hmark
  cases colours <;>
    exact absurd hmark (by simp [Style.apply, Style.codes, failureMark, successMark])

theorem countP_isHeaded (severity : Severity) (width : String → Nat) (colours : Bool)
    (reports : List KeyReport) :
    reports.countP (KeyReport.isHeaded severity width colours) =
      reports.countP (KeyReport.isOf severity) := by
  rw [funext (KeyReport.isHeaded_eq_isOf severity width colours)]

variable {reports : List KeyReport} {documents : Nat} {width : String → Nat} {colours : Bool}

/-- If there are problems, the line below the reports says how many reports are headed by each
mark. -/
theorem summaryLine_eq_problemsLine
    (h : ¬ (reports.countP (KeyReport.isHeaded .error width colours) = 0 ∧
      reports.countP (KeyReport.isHeaded .warning width colours) = 0)) :
    summaryLine reports documents colours =
      problemsLine (reports.countP (KeyReport.isHeaded .error width colours))
        (reports.countP (KeyReport.isHeaded .warning width colours)) colours := by
  simp only [countP_isHeaded] at h ⊢
  exact if_pos (by omega)

/-- That there are no problems is said exactly if no report is headed by a mark. -/
theorem summaryLine_eq_noProblemsLine_iff :
    summaryLine reports documents colours = noProblemsLine reports.length documents colours ↔
      reports.countP (KeyReport.isHeaded .error width colours) = 0 ∧
        reports.countP (KeyReport.isHeaded .warning width colours) = 0 := by
  constructor
  · intro hline
    refine Decidable.byContradiction fun h => ?_
    have hproblems : summaryLine reports documents colours = _ := summaryLine_eq_problemsLine h
    exact problemsLine_ne_noProblemsLine _ _ _ _ _ (hproblems.symm.trans hline)
  · intro h
    simp only [countP_isHeaded] at h
    exact if_neg (by omega)

end MessageKeys
