import MessageKeys.Config.Json
import MessageKeys.Files.Destination
import MessageKeys.Text.Quoted

/-!
# Finding configurations

The configuration of a directory is in the nearest configuration file at or above it, unless a
repository ends before that: the directory at the top of a repository is the last one to be looked
into. Where there is no configuration file, the defaults hold.

## Main definitions

* `MessageKeys.Config.file?` — the configuration file for a directory.
* `MessageKeys.Config.load` — the configuration for a directory, and where it holds.
* `MessageKeys.Config.LoadError` — why it cannot be used, with `LoadError.message`.
-/

namespace MessageKeys.Config

/-- The name of configuration files. -/
def fileName : String := ".keyrefrc.json"

/-- The name of the entry at the top of a repository. -/
def repositoryName : String := ".git"

/-- The first configuration file in some directories, of which those behind the top of a repository
are not looked into. -/
def fileIn? (files : Entry) : List Path → Option Path
  | [] => none
  | directory :: directories =>
    if files.holds (directory.child fileName) then some (directory.child fileName)
    else if files.holds (directory.child repositoryName) then none
    else fileIn? files directories

/-- The configuration file for a directory. -/
def file? (files : Entry) (start : Path) : Option Path := fileIn? files (start :: start.above)

/-- A configuration and where it holds. -/
structure Loaded where
  config : Config
  /-- Whether there is a configuration file. -/
  fromFile : Bool
  /-- The directory from which the messages root is seen. -/
  directory : Path
  deriving Repr

/-- Why a configuration file cannot be used. -/
inductive LoadError where
  | unreadable (cause : AccessError)
  /-- The text of the file gives no configuration. -/
  | undecodable (file : Path)
  | flawed (flaw : Flaw)
  deriving Repr

/-- What is said about a configuration file that cannot be used. -/
def LoadError.message : LoadError → String
  | unreadable cause => cause.message
  | undecodable file => "Failed to parse config file: " ++ quotedPath file.text
  | flawed flaw => flaw.message

/-- The configuration in a file. -/
def readFile (files : Entry) (file : Path) : Except LoadError Config :=
  match files.readText file with
  | .error cause => .error (.unreadable cause)
  | .ok text =>
    match ofText? text with
    | none => .error (.undecodable file)
    | some config =>
      match config.validate with
      | .ok () => .ok config
      | .error flaw => .error (.flawed flaw)

/-- The configuration for a directory. -/
def load (files : Entry) (start : Path) : Except LoadError Loaded :=
  match file? files start with
  | none => .ok ⟨default, false, start⟩
  | some file => do return ⟨← readFile files file, true, file.parent?.getD start⟩

end MessageKeys.Config
