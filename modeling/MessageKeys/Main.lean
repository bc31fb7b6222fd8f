import MessageKeys.Command.Arguments
import MessageKeys.Command.Run
import MessageKeys.Text.Width

/-!
# The program

Reads the files that a command may look at, runs it, prints what it prints, and writes the file that
it leaves behind. All decisions are in `MessageKeys.Command.ofArguments` and
`MessageKeys.Situation.run`; here the files at hand become an `Entry`.

Links are followed by the system when a file is read or written, so that there are none in the
`Entry`. Below the messages root nothing follows them, and there they are left out. So are the bytes
of files whose names show no format, because nothing looks into them.

## Main definitions

* `MessageKeys.situation` — what a command is run on.
* `main` — the program.
-/

namespace MessageKeys

/-- A path as the file system takes it. -/
def placeOf (p : Path) := do return { ← IO.currentDir with toString := p.text }

/-- The entry that a path leads to, if there is one, without links below it; only files that are
`wanted` are read. -/
partial def readEntry (wanted : Path → Bool) (p : Path) : IO (Option Entry) := do
  let here ← placeOf p
  if ← here.isDir then
    let mut entries := []
    for found in ← here.readDir do
      if (← found.path.symlinkMetadata).type == .symlink then continue
      if let some entry ← readEntry wanted (p.child found.fileName) then
        entries := (found.fileName, entry) :: entries
    return some (.directory entries)
  else if ← here.pathExists then
    return some (.file (← if wanted p then IO.FS.readBinFile here else pure .empty))
  else return none

/-- Adds the entry at a path to some files. -/
def addEntry (wanted : Path → Bool) (files : Entry) (p : Path) : IO Entry := do
  match ← readEntry wanted p with
  | some entry => return files.put p.canonical.names entry
  | none => return files

/-- Adds a directory with those of its entries that the search for a configuration looks at. -/
def addConfig (files : Entry) (directory : Path) : IO Entry := do
  let files := if files.holds directory then files else files.put directory.names (.directory [])
  let files ← addEntry (fun _ => true) files (directory.child Config.fileName)
  if ← (← placeOf (directory.child Config.repositoryName)).pathExists then
    return files.put (directory.child Config.repositoryName).names (.directory [])
  else return files

/-- The common options of a command, and its file of fragments. -/
def Command.reads : Command → Option CommonOptions × Option Path
  | .overview | .init => (none, none)
  | .resolve _ fragments? _ options => (some options, fragments?)
  | .complete _ _ options => (some options, none)

/-- What a command is run on: the files that it may look at, in the working directory. -/
def situation (command : Command) (colours : Bool) : IO Situation := do
  let directory := Path.ofText (← IO.currentDir).toString
  let files ← (directory :: directory.above).reverse.foldlM addConfig (.directory [])
  let s : Situation := ⟨files, directory, width, colours⟩
  let (options?, fragments?) := command.reads
  let files ←
    match fragments? with
    | some file => addEntry (fun _ => true) s.files (s.directory.join file)
    | none => pure s.files
  match options?, Config.load files directory with
  | some options, .ok loaded =>
    let root := s.messagesRoot options loaded
    return { s with files := ← addEntry (fun p => p.format?.isSome) files root }
  | _, _ => return { s with files }

/-- What is said about arguments that are no command. -/
def UsageError.message : UsageError → String
  | helpRequested | versionRequested => ""
  | unknownCommand => "unrecognized subcommand"
  | unknownArgument => "unexpected argument"
  | invalidValue => "invalid or missing value of an option"
  | missingKey => "a key is required"
  | repeatedOption => "an option cannot be used multiple times"
  | unexpectedValue => "unexpected value of an option"

end MessageKeys

open MessageKeys

/-- Runs the command that the arguments spell. -/
def main (arguments : List String) : IO UInt32 := do
  match Command.ofArguments arguments with
  | .error .versionRequested => IO.println "keyref 0.1.0"; return 0
  | .error .helpRequested => IO.print overviewText; return 0
  | .error e => IO.eprintln ("error: " ++ e.message); return e.exitCode.toUInt32
  | .ok command =>
    let s ← situation command (← (← IO.getStdout).isTty)
    let outcome := s.run command
    let file := s.directory.child Config.fileName
    if !s.files.holds file then
      if let .ok text := outcome.files.readText file then
        try IO.FS.writeFile file.text text
        catch cause => IO.eprintln ("Error: " ++ toString cause); return 2
    IO.eprint outcome.stderr
    IO.print outcome.stdout
    return outcome.exitCode.toUInt32
