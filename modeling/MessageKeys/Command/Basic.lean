import MessageKeys.Files.Path

/-!
# Commands

What the program can be asked to do, and why it may refuse to understand.

## Main definitions

* `MessageKeys.Command` — the commands with their options.
* `MessageKeys.UsageError` — why arguments are no command, with `UsageError.exitCode`.
-/

namespace MessageKeys

/-- The form in which results are printed. -/
inductive OutputFormat where
  | text
  | json
  deriving DecidableEq, Repr

/-- The options that commands on keys share. -/
structure CommonOptions where
  /-- The messages root, as seen from the working directory. -/
  messagesRoot? : Option Path := none
  defaultNamespace? : Option String := none
  verbose : Bool := false
  deriving DecidableEq, Repr

/-- What the program is asked to do. -/
inductive Command where
  /-- To show what it can do. -/
  | overview
  /-- To report on keys, and on those in a file of fragments. -/
  | resolve (keys : List String) (fragments? : Option Path) (format : OutputFormat)
      (options : CommonOptions)
  /-- To list what can follow a partly typed key. -/
  | complete (typed : String) (format : OutputFormat) (options : CommonOptions)
  /-- To write a configuration file. -/
  | init
  deriving DecidableEq, Repr

/-- Why arguments are no command. -/
inductive UsageError where
  | helpRequested
  | versionRequested
  | unknownCommand
  | unknownArgument
  /-- An option lacks its value, or has one that it cannot have. -/
  | invalidValue
  | missingKey
  | repeatedOption
  /-- An option has a value although it takes none. -/
  | unexpectedValue
  deriving DecidableEq, Repr

/-- The exit code of a run that ends with a usage error: requests for information are none. -/
def UsageError.exitCode : UsageError → Nat
  | helpRequested | versionRequested => 0
  | _ => 2

end MessageKeys
