import MessageKeys.Command.Basic
import MessageKeys.Config.Discovery
import MessageKeys.Key.Decode
import MessageKeys.Report.Json
import MessageKeys.Report.Text

/-!
# Running commands

A command is run on the files at hand. It prints texts, ends with an exit code, and leaves files
behind; only `init` leaves others than it found.

## Main definitions

* `MessageKeys.Situation` — what a command is run on.
* `MessageKeys.Outcome` — what a run leaves behind.
* `MessageKeys.Failure` — why a command could not be carried out, with `Failure.message`.
* `MessageKeys.Situation.openProject` — the configuration and the documents for a command.
* `MessageKeys.Situation.run` — runs a command.
-/

namespace MessageKeys

/-- What a command is run on. -/
structure Situation where
  files : Entry
  /-- The working directory, an absolute path. -/
  directory : Path
  /-- How many columns a text takes on the terminal. -/
  width : String → Nat
  /-- Whether the terminal shows colours. -/
  colours : Bool := false

/-- What a run leaves behind. -/
structure Outcome where
  exitCode : Nat
  stdout : String
  stderr : String
  files : Entry

/-- Why a command could not be carried out. -/
inductive Failure where
  | noKeys
  | fragmentsUnreadable (file : Path)
  /-- The file holds no fragments. -/
  | fragmentsUndecodable (file : Path)
  | badConfig (cause : Config.LoadError)
  | badPatterns (flaw : Config.Flaw)
  | noCatalog (cause : LoadError)
  | configExists
  /-- The configuration file cannot be written. -/
  | configUnwritable (cause : AccessError)
  deriving Repr

/-- What is said about a failure. -/
def Failure.message : Failure → String
  | noKeys => "No keys given. Pass key expressions or --fragments <FILE>."
  | fragmentsUnreadable file => "Failed to read fragments file: " ++ file.text
  | fragmentsUndecodable file => "Failed to parse fragments file: " ++ file.text
  | badConfig cause => cause.message
  | badPatterns flaw => flaw.message
  | noCatalog cause => cause.message
  | configExists => Config.fileName ++ " already exists"
  | configUnwritable cause => cause.message

/-- What the program shows about itself. -/
def overviewText : String :=
  linesText
    ["Resolve composite i18n keys against JSON and YAML translation trees",
      "",
      "Usage: keyref [COMMAND]",
      "",
      "Commands:",
      "  resolve   Resolve translation keys and report how far each one resolves",
      "  complete  List completion candidates for a partially typed key",
      "  init      Initialize a new .keyrefrc.json configuration file",
      "  help      Print this message or the help of the given subcommand(s)",
      "",
      "Options:",
      "  -h, --help     Print help",
      "  -V, --version  Print version"]

/-- The fragments of the key expressions that a text writes. -/
def expressionsOf? (text : String) : Option (List (List Fragment)) :=
  match Json.read .skimming text with
  | .ok value => Json.items? (Json.items? Fragment.ofJson?) value
  | .error _ => none

/-- The configuration and the documents that a command is carried out with. -/
structure Project where
  config : Config
  catalog : Catalog

/-- A path without a dot at its start. -/
def Path.withoutDot (p : Path) : Path := (p.relativeTo? (Path.ofText ".")).getD p

namespace Situation

/-- The key expressions in a file. -/
def readExpressions (s : Situation) (file : Path) : Except Failure (List (List Fragment)) :=
  match s.files.readText (s.directory.join file) with
  | .error _ => .error (.fragmentsUnreadable file)
  | .ok text =>
    match expressionsOf? text with
    | some expressions => .ok expressions
    | none => .error (.fragmentsUndecodable file)

/-- The key expressions of a command: its keys and then those in a file. There must be one. -/
def expressions (s : Situation) (keys : List String) (fragments? : Option Path) :
    Except Failure (List (List Fragment)) := do
  let inFile ←
    match fragments? with
    | some file => s.readExpressions file
    | none => pure []
  match keys.map (fun key => [Fragment.literal key]) ++ inFile with
  | [] => throw .noKeys
  | expressions => return expressions

/-- The messages root: as an option gives it, seen from the working directory, or else as the
configuration gives it, seen from its own directory. -/
def messagesRoot (s : Situation) (options : CommonOptions) (loaded : Config.Loaded) : Path :=
  match options.messagesRoot? with
  | some root => s.directory.join root
  | none => loaded.directory.join (Path.ofText loaded.config.messagesRoot).withoutDot

/-- A configuration with the options of a command. -/
def withOptions (options : CommonOptions) (config : Config) : Config :=
  { config with
    messagesRoot := (options.messagesRoot?.map Path.text).getD config.messagesRoot
    defaultNamespace := options.defaultNamespace?.getD config.defaultNamespace }

/-- The catalog of a configuration, or why there is none. -/
def loadCatalog (s : Situation) (config : Config) (root : Path) : Except Failure Catalog := do
  let ignores ← config.ignorePatterns.mapError Failure.badPatterns
  (Catalog.load s.files root ignores).mapError Failure.noCatalog

/-- What is said about a configuration before the documents are loaded. -/
def configNotes (options : CommonOptions) (loaded : Config.Loaded) : List String :=
  if options.verbose && !loaded.fromFile then
    ["Note: No " ++ Config.fileName ++ " found, using default configuration"]
  else []

/-- What is said about the documents when they have been loaded. -/
def catalogNotes (s : Situation) (options : CommonOptions) (root : Path) (catalog : Catalog) :
    List String :=
  warningLines catalog.warnings options.verbose s.colours ++
    if options.verbose then
      ["Note: Loaded " ++ catalog.documents.length.repr ++ " translation file(s) from " ++
        root.text]
    else []

/-- The configuration and the documents for a command, and what is said about them on the way. -/
def openProject (s : Situation) (options : CommonOptions) :
    List String × Except Failure Project :=
  match Config.load s.files s.directory with
  | .error cause => ([], .error (.badConfig cause))
  | .ok loaded =>
    let root := s.messagesRoot options loaded
    let config := withOptions options loaded.config
    match s.loadCatalog config root with
    | .error failure => (configNotes options loaded, .error failure)
    | .ok catalog =>
      (configNotes options loaded ++ s.catalogNotes options root catalog, .ok ⟨config, catalog⟩)

/-! ### Outcomes -/

/-- The outcome of a run that prints a text and changes no file. -/
def printed (s : Situation) (exitCode : Nat) (notes : List String) (stdout : String) : Outcome :=
  ⟨exitCode, stdout, linesText notes, s.files⟩

/-- The outcome of a run that fails after some notes. -/
def failed (s : Situation) (notes : List String) (failure : Failure) : Outcome :=
  s.printed 2 (notes ++ ["Error: " ++ failure.message]) ""

/-- The exit code of a run with some reports: failure if one of them is on an error. -/
def reportsCode (reports : List KeyReport) : Nat :=
  if reports.any (KeyReport.isOf .error) then 1 else 0

/-- Reports on key expressions. -/
def runResolve (s : Situation) (keys : List String) (fragments? : Option Path)
    (format : OutputFormat) (options : CommonOptions) : Outcome :=
  match s.expressions keys fragments? with
  | .error failure => s.failed [] failure
  | .ok expressions =>
    match s.openProject options with
    | (notes, .error failure) => s.failed notes failure
    | (notes, .ok project) =>
      let reports := expressions.map (project.catalog.reportOn project.config)
      s.printed (reportsCode reports) notes <|
        match format with
        | .text => reportsText reports project.catalog.documents.length s.width s.colours
        | .json => (reportsJson reports).pretty ++ "\n"

/-- Lists what can follow a partly typed key. -/
def runComplete (s : Situation) (typed : String) (format : OutputFormat)
    (options : CommonOptions) : Outcome :=
  match s.openProject options with
  | (notes, .error failure) => s.failed notes failure
  | (notes, .ok project) =>
    let variants := project.catalog.complete project.config typed
    s.printed 0 notes <|
      match format with
      | .text => linesText (variants.map (typed ++ ·))
      | .json => (completionsJson typed variants).pretty ++ "\n"

/-- Writes a configuration file, unless something is found under its name. -/
def runInit (s : Situation) : Outcome :=
  let file := s.directory.child Config.fileName
  if s.files.holds file then s.failed [] .configExists
  else
    match s.files.write file Config.defaultText.toUTF8 with
    | .error cause => s.failed [] (.configUnwritable cause)
    | .ok files =>
      { exitCode := 0
        stdout := linesText
          [Style.green.apply s.colours successMark ++ " " ++
            Style.green.apply s.colours ("Created " ++ Config.fileName)]
        stderr := ""
        files }

/-- Runs a command. -/
def run (s : Situation) : Command → Outcome
  | .overview => s.printed 0 [] overviewText
  | .resolve keys fragments? format options => s.runResolve keys fragments? format options
  | .complete typed format options => s.runComplete typed format options
  | .init => s.runInit

end Situation

end MessageKeys
