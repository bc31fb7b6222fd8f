import MessageKeys.Report.Basic
import MessageKeys.Report.Style
import MessageKeys.Text.Quoted

/-!
# Reports as text

A report starts with its severity and the status of the key, and the document that speaks for it.
The source of a key with a problem follows, with carets below the part that is at fault, and then
what is known about the key, each on a line of its own. How many columns a text takes is up to the
terminal, and is given as a function `width`.

## Main definitions

* `MessageKeys.KeyReport.lines` — the lines of a report.
* `MessageKeys.summaryLine` — the line below all reports.
* `MessageKeys.reportsText` — all reports with their summary.
* `MessageKeys.warningLines` — what is said about files that could not be loaded.
-/

namespace MessageKeys

/-- The mark of success. -/
def successMark : String := "✓"

/-- The mark of failure. -/
def failureMark : String := "✘"

/-- A text of lines, each with its end. -/
def linesText (lines : List String) : String := String.join (lines.map (· ++ "\n"))

/-- A noun for some number of things. -/
def counted (n : Nat) (one several : String) : String := if n = 1 then one else several

/-- The style of problems of a severity. -/
def Severity.style : Severity → Style
  | error => .red
  | warning => .yellow

namespace KeyReport

/-- The severity in front of a report. -/
def head (r : KeyReport) (colours : Bool) : String :=
  match r.severity? with
  | some .error => Style.boldRed.apply colours "error:"
  | some .warning => Style.boldYellow.apply colours "warning:"
  | none => Style.green.apply colours successMark

/-- A line of a report behind a mark. -/
def marked (mark : String) (colours : Bool) (text : String) : String :=
  "   " ++ Style.blue.apply colours mark ++ text

/-- The line that says which document speaks for the key. -/
def fileLine (r : KeyReport) (colours : Bool) : String :=
  "  " ++ Style.blue.apply colours "-->" ++ " " ++
    match r.file? with
    | some file => file.text
    | none => "no translation file for namespace \"" ++ r.ns ++ "\""

/-- The source with carets below the part that is at fault: as many as it takes columns, and one at
least. -/
def sourceLines (r : KeyReport) (severity : Severity) (width : String → Nat) (colours : Bool) :
    List String :=
  let before := String.ofList (r.source.toList.take r.highlight.start)
  let fault := String.ofList ((r.source.toList.drop r.highlight.start).take r.highlight.length)
  let caret := severity.style.apply colours "^"
  [marked "|" colours "",
    marked "|" colours (" " ++ r.source),
    marked "|" colours (" " ++ String.ofList (List.replicate (width before) ' ') ++
      String.join (List.replicate (max 1 (width fault)) caret))]

/-- A line that says something about the key. -/
def factLine (name text : String) (colours : Bool) : String :=
  marked "=" colours (" " ++ Style.bold.apply colours name ++ " " ++ text)

/-- A line that says something about the key, unless there is nothing to be said. -/
def listLine (name separator : String) (items : List String) (colours : Bool) : List String :=
  if items.isEmpty then [] else [factLine name (String.intercalate separator items) colours]

/-- The lines of a report; the last one is empty. -/
def lines (r : KeyReport) (width : String → Nat) (colours : Bool) : List String :=
  [r.head colours ++ " \"" ++ r.key ++ "\"  " ++ Style.dimmedCyan.apply colours r.status.message,
    r.fileLine colours] ++
  (match r.severity? with
    | some severity => r.sourceLines severity width colours
    | none => []) ++
  listLine "resolved:" "." r.resolvedPath colours ++
  listLine "missing:" "." r.unresolved colours ++
  (match r.value? with
    | some value => [factLine "value:" (quotedMessage value) colours]
    | none => []) ++
  listLine "missing in:" ", " r.missingIn colours ++
  [""]

end KeyReport

/-- The line below all reports: how many problems there are, or that there are none. -/
def summaryLine (reports : List KeyReport) (documents : Nat) (colours : Bool) : String :=
  let errors := reports.countP (KeyReport.isOf .error)
  let warnings := reports.countP (KeyReport.isOf .warning)
  if 0 < errors + warnings then
    Style.red.apply colours failureMark ++ " " ++ (errors + warnings).repr ++ " problems (" ++
      errors.repr ++ " " ++ Style.red.apply colours (counted errors "error" "errors") ++ ", " ++
      warnings.repr ++ " " ++ Style.yellow.apply colours (counted warnings "warning" "warnings") ++
      ")"
  else
    Style.green.apply colours successMark ++ " " ++
      Style.green.apply colours
        ("Resolved " ++ reports.length.repr ++ " " ++ counted reports.length "key" "keys" ++
          " against " ++ documents.repr ++ " translation " ++ counted documents "file" "files" ++
          " - no problems found")

/-- All reports with their summary. -/
def reportsText (reports : List KeyReport) (documents : Nat) (width : String → Nat)
    (colours : Bool) : String :=
  linesText (reports.flatMap (KeyReport.lines · width colours) ++
    [summaryLine reports documents colours])

/-- What is said about files that could not be loaded: which ones and why, or only how many. -/
def warningLines (warnings : List LoadWarning) (verbose colours : Bool) : List String :=
  let mark := Style.boldYellow.apply colours "warning:"
  if warnings.isEmpty then []
  else if verbose then
    warnings.map fun w => mark ++ " " ++ w.file.text ++ ": " ++ w.error.message
  else
    [mark ++ " " ++ warnings.length.repr ++ " file(s) could not be loaded (use " ++
      Style.cyan.apply colours "-v" ++ " for details)"]

end MessageKeys
