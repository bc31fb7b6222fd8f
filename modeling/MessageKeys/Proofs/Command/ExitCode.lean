import Mathlib
import MessageKeys.Command.Run
import MessageKeys.Proofs.Report.Severity
import MessageKeys.Proofs.Report.Summary

/-!
# Exit codes of reports

A run that reports on key expressions fails exactly if it fails on one of them: if there is no
document of its namespace, or if no document resolves it completely and that is not passed over.
Warnings do not count. Which document speaks for a key depends on the order of the documents, but
whether any resolves it does not, so neither the order of the expressions nor the order, the paths
and the locales of the documents matter.

## Main definitions

* `MessageKeys.Catalog.FailsOn` — a run fails on a key expression.
* `MessageKeys.Catalog.contents` — what the documents say, whatever their paths and locales.

## Main results

* `MessageKeys.Catalog.failsOn_congr` — only the contents of the documents matter.
* `MessageKeys.Situation.exitCode_run_resolve` — the exit code of a run, and the line below its
  reports.
-/

namespace MessageKeys

namespace Catalog

variable {catalog other : Catalog} {config : Config} {fragments : List Fragment}

/-- Whether a run fails on a key expression: there is no document of its namespace, or none resolves
it completely; the latter is passed over for a key that names no namespace, if that is asked for,
and if no document resolves its first segment. -/
def FailsOn (catalog : Catalog) (config : Config) (fragments : List Fragment) : Prop :=
  let k := Key.parse config.separators fragments
  let documents := catalog.candidates (config.namespaceOf k)
  documents = [] ∨
  (∀ d ∈ documents, (d.tree.resolve config.pluralRules k.segments).isResolved = false) ∧
    ¬ (k.hasNamespace = false ∧ config.suppressUnresolvedDefaultNs = true ∧
      ∀ d ∈ documents, (d.tree.resolve config.pluralRules k.segments).path = [])

instance (catalog : Catalog) (config : Config) (fragments : List Fragment) :
    Decidable (catalog.FailsOn config fragments) :=
  inferInstanceAs (Decidable (_ ∨ _ ∧ ¬ _))

/-- What the documents say and in which namespace, whatever their paths and locales. -/
def contents (catalog : Catalog) : List (String × Tree) :=
  catalog.documents.map fun d => (d.ns, d.tree)

theorem forall_candidates_iff {ns : String} {p : Tree → Prop} :
    (∀ d ∈ catalog.candidates ns, p d.tree) ↔
      ∀ entry ∈ catalog.contents, entry.1 = ns → p entry.2 := by
  rw [contents, List.forall_mem_map]
  simp [candidates]

theorem candidates_eq_nil_iff {ns : String} :
    catalog.candidates ns = [] ↔ ∀ entry ∈ catalog.contents, entry.1 ≠ ns := by
  rw [contents, List.forall_mem_map]
  simp [candidates]

/-- Whether a run fails on an expression depends on the contents of the documents alone. -/
theorem failsOn_congr (h : catalog.contents.Perm other.contents) :
    catalog.FailsOn config fragments ↔ other.FailsOn config fragments := by
  let k := Key.parse config.separators fragments
  let ns := config.namespaceOf k
  have hnil : catalog.candidates ns = [] ↔ other.candidates ns = [] := by
    simp only [candidates_eq_nil_iff, h.mem_iff]
  have hforall (p : Tree → Prop) :
      (∀ d ∈ catalog.candidates ns, p d.tree) ↔ ∀ d ∈ other.candidates ns, p d.tree := by
    simp only [forall_candidates_iff, h.mem_iff]
  have hresolved := hforall fun t => (t.resolve config.pluralRules k.segments).isResolved = false
  have hpath := hforall fun t => (t.resolve config.pluralRules k.segments).path = []
  exact or_congr hnil (and_congr hresolved
    (not_congr (and_congr_right' (and_congr_right' hpath))))

end Catalog

/-! ### The exit code -/

section Reports

variable {catalog : Catalog} {config : Config} {expressions : List (List Fragment)}

theorem any_isOf_error_iff :
    (expressions.map (catalog.reportOn config)).any (KeyReport.isOf .error) ↔
      ∃ fragments ∈ expressions, catalog.FailsOn config fragments := by
  simp only [List.any_map, List.any_eq_true, Function.comp_apply, KeyReport.isOf, beq_iff_eq]
  exact exists_congr fun fragments =>
    and_congr_right' (Catalog.severity?_reportOn_eq_error_iff catalog config fragments)

theorem reportsCode_eq_one_iff :
    Situation.reportsCode (expressions.map (catalog.reportOn config)) = 1 ↔
      ∃ fragments ∈ expressions, catalog.FailsOn config fragments := by
  rw [← any_isOf_error_iff, Situation.reportsCode]
  split_ifs with h <;> simp [h]

theorem reportsCode_eq_zero_iff :
    Situation.reportsCode (expressions.map (catalog.reportOn config)) = 0 ↔
      ¬ ∃ fragments ∈ expressions, catalog.FailsOn config fragments := by
  rw [← any_isOf_error_iff, Situation.reportsCode]
  split_ifs with h <;> simp [h]

/-- The exit code does not depend on the order of the expressions, nor on anything but the contents
of the documents. -/
theorem reportsCode_congr {expressions' : List (List Fragment)} {catalog' : Catalog}
    (hexpressions : expressions'.Perm expressions)
    (hcontents : catalog'.contents.Perm catalog.contents) :
    Situation.reportsCode (expressions'.map (catalog'.reportOn config)) =
      Situation.reportsCode (expressions.map (catalog.reportOn config)) := by
  have hfails : (∃ fragments ∈ expressions', catalog'.FailsOn config fragments) ↔
      ∃ fragments ∈ expressions, catalog.FailsOn config fragments := by
    simp only [hexpressions.mem_iff, Catalog.failsOn_congr hcontents]
  by_cases h : ∃ fragments ∈ expressions, catalog.FailsOn config fragments
  · rw [reportsCode_eq_one_iff.mpr h, reportsCode_eq_one_iff.mpr (hfails.mpr h)]
  · rw [reportsCode_eq_zero_iff.mpr h, reportsCode_eq_zero_iff.mpr (mt hfails.mp h)]

end Reports

namespace Situation

variable {s : Situation} {keys : List String} {fragments? : Option Path} {format : OutputFormat}
  {options : CommonOptions} {expressions : List (List Fragment)} {notes : List String}
  {project : Project}

/-- A configuration and a catalog that load make a project. -/
theorem openProject_of_ok (options : CommonOptions) {loaded : Config.Loaded} {catalog : Catalog}
    (hconfig : Config.load s.files s.directory = .ok loaded)
    (hcatalog : s.loadCatalog (withOptions options loaded.config) (s.messagesRoot options loaded) =
      .ok catalog) :
    s.openProject options =
      (configNotes options loaded ++
          s.catalogNotes options (s.messagesRoot options loaded) catalog,
        .ok ⟨withOptions options loaded.config, catalog⟩) := by
  simp only [openProject, hconfig, hcatalog]

/-- A run with key expressions and a catalog prints the reports on them. -/
theorem run_resolve (hexpressions : s.expressions keys fragments? = .ok expressions)
    (hproject : s.openProject options = (notes, .ok project)) :
    let reports := expressions.map (project.catalog.reportOn project.config)
    s.run (.resolve keys fragments? format options) =
      s.printed (reportsCode reports) notes
        (match format with
          | .text => reportsText reports project.catalog.documents.length s.width s.colours
          | .json => (reportsJson reports).pretty ++ "\n") := by
  cases format with
  | text => rw [run, runResolve, hexpressions, hproject]
  | json => rw [run, runResolve, hexpressions, hproject]

/-- **Exit codes.** A run that reports on key expressions has the exit code 1 if it fails on one of
them and 0 otherwise, in both output formats. Another run on the same expressions in any order, with
the same configuration and with documents of the same contents in any order, has the same exit code.
In the text, the line below the reports says how many of them are headed by the mark of an error and
how many by that of a warning, or, exactly if there is neither, that there are no problems. -/
theorem exitCode_run_resolve (hexpressions : s.expressions keys fragments? = .ok expressions)
    (hproject : s.openProject options = (notes, .ok project)) :
    let outcome := s.run (.resolve keys fragments? format options)
    (outcome.exitCode = 1 ↔
      ∃ fragments ∈ expressions, project.catalog.FailsOn project.config fragments) ∧
    (outcome.exitCode = 0 ↔
      ¬ ∃ fragments ∈ expressions, project.catalog.FailsOn project.config fragments) ∧
    (∀ (other : Situation) otherKeys otherFragments? otherFormat otherOptions otherExpressions
        otherNotes otherProject,
      other.expressions otherKeys otherFragments? = .ok otherExpressions →
      other.openProject otherOptions = (otherNotes, .ok otherProject) →
      otherExpressions.Perm expressions → otherProject.config = project.config →
      otherProject.catalog.contents.Perm project.catalog.contents →
      (other.run (.resolve otherKeys otherFragments? otherFormat otherOptions)).exitCode =
        outcome.exitCode) ∧
    (format = .text →
      let reports := expressions.map (project.catalog.reportOn project.config)
      let errors := reports.countP (KeyReport.isHeaded .error s.width s.colours)
      let warnings := reports.countP (KeyReport.isHeaded .warning s.width s.colours)
      ∃ last,
        outcome.stdout =
          linesText (reports.flatMap (KeyReport.lines · s.width s.colours) ++ [last]) ∧
        (last = noProblemsLine reports.length project.catalog.documents.length s.colours ↔
          errors = 0 ∧ warnings = 0) ∧
        (¬ (errors = 0 ∧ warnings = 0) → last = problemsLine errors warnings s.colours)) := by
  intro outcome
  have houtcome : outcome = _ := run_resolve hexpressions hproject
  have hcode : outcome.exitCode =
      reportsCode (expressions.map (project.catalog.reportOn project.config)) := by
    rw [houtcome]
    rfl
  refine ⟨?_, ?_, ?_, ?_⟩
  · rw [hcode, reportsCode_eq_one_iff]
  · rw [hcode, reportsCode_eq_zero_iff]
  · intro other otherKeys otherFragments? otherFormat otherOptions otherExpressions otherNotes
      otherProject hother hopen hperm hconfig hcontents
    rw [run_resolve hother hopen, hcode, hconfig]
    exact reportsCode_congr hperm hcontents
  · rintro rfl reports errors warnings
    refine ⟨summaryLine reports project.catalog.documents.length s.colours, ?_,
      summaryLine_eq_noProblemsLine_iff, summaryLine_eq_problemsLine⟩
    rw [houtcome]
    rfl

/-- Of two keys one does not resolve in the only document there is. -/
theorem exitCode_run_resolve_missing :
    let value : Json := .object [("title", .string "Title")]
    let document : Document :=
      ⟨⟨["", "locales", "common.json"]⟩, "common", none, .json value⟩
    let file : Entry := .file "\x7b\"title\": \"Title\"\x7d".toUTF8
    let s : Situation :=
      { files := .directory [("locales", .directory [("common.json", file)])]
        directory := ⟨["", ""]⟩
        width := String.length }
    let options : CommonOptions := { messagesRoot? := some ⟨["locales"]⟩ }
    let expressions : List (List Fragment) :=
      [[.literal "common:title"], [.literal "common:save"]]
    let project : Project := ⟨{ messagesRoot := "locales" }, .ofDocuments [document]⟩
    s.expressions ["common:title", "common:save"] none = .ok expressions ∧
      s.openProject options = ([], .ok project) ∧
      (s.run (.resolve ["common:title", "common:save"] none .text options)).exitCode = 1 := by
  intro value document file s options expressions project
  have hexpressions : s.expressions ["common:title", "common:save"] none = .ok expressions := rfl
  have hvalue : Document.rootOf .json document.path "\x7b\"title\": \"Title\"\x7d" =
      .ok (.json value) := by
    cbv
  have hload : Document.load s.files ⟨["", "locales"]⟩ document.path = .ok document := by
    have hread : s.files.readText document.path = .ok "\x7b\"title\": \"Title\"\x7d" := rfl
    have hformat : document.path.format? = some .json := by decide +kernel
    have hstem : document.path.stem? = some "common" := by decide +kernel
    rw [Document.load, hformat, hstem, hread]
    simp only [hvalue]
    rfl
  have hfiles : Catalog.filesToLoad s.files ⟨["", "locales"]⟩ [] = [document.path] := by
    decide +kernel
  have hcatalog : Catalog.load s.files ⟨["", "locales"]⟩ [] = .ok project.catalog := by
    have hroot : s.files.find ⟨["", "locales"]⟩ = .ok (.directory [("common.json", file)]) := rfl
    rw [Catalog.load, hroot, hfiles, List.map_singleton, Catalog.loadFile, hload]
    rfl
  have hproject : s.openProject options = ([], .ok project) := by
    have hconfig : Config.load s.files s.directory = .ok ⟨.default, false, s.directory⟩ := rfl
    have hloaded : s.loadCatalog project.config ⟨["", "locales"]⟩ = .ok project.catalog :=
      congrArg (Except.mapError Failure.noCatalog) hcatalog
    exact openProject_of_ok options hconfig hloaded
  refine ⟨hexpressions, hproject, (exitCode_run_resolve hexpressions hproject).1.mpr ?_⟩
  decide +kernel

end Situation

end MessageKeys
