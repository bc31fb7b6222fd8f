import MessageKeys.Key.Segments
import MessageKeys.Pattern.Glob
import MessageKeys.Resolve.Reference

/-!
# Configurations

What a project says about its messages: where they are, which namespace is meant by a key that names
none, and how keys and plural forms are written.

## Main definitions

* `MessageKeys.Config` — a configuration; the defaults are those of its fields.
* `MessageKeys.Config.Flaw` — why a configuration cannot be used, with `Flaw.message`.
* `MessageKeys.Config.validate` — the first flaw of a configuration.
* `MessageKeys.Config.separators`, `MessageKeys.Config.pluralRules`,
  `MessageKeys.Config.ignorePatterns` — what keys are read and documents are looked up with.
-/

namespace MessageKeys

/-- A configuration. -/
structure Config where
  /-- Where the documents are, as seen from the directory of the configuration. -/
  messagesRoot : String := "./locales"
  /-- Glob patterns of files below the messages root that are passed over. -/
  ignores : List String := []
  /-- The namespace of keys that name none. -/
  defaultNamespace : String := "translation"
  nsSeparator : Char := ':'
  keySeparator : Char := '.'
  pluralSeparator : String := "_"
  pluralVariants : List String := PluralRules.defaultVariants
  /-- Whether keys of which nothing resolves in the default namespace are passed over. -/
  suppressUnresolvedDefaultNs : Bool := false
  deriving DecidableEq, Repr

namespace Config

/-- The configuration of a project that says nothing. -/
def default : Config := {}

/-- The separators of keys. -/
def separators (c : Config) : Separators := ⟨c.nsSeparator, c.keySeparator⟩

/-- How the names of plural forms are built. -/
def pluralRules (c : Config) : PluralRules := ⟨c.pluralSeparator, c.pluralVariants⟩

/-! ### Flaws -/

/-- Why a configuration cannot be used. -/
inductive Flaw where
  /-- A text in `ignores` is no glob pattern. -/
  | badPattern (text : String)
  /-- Both separators are this character. -/
  | sameSeparators (separator : Char)
  /-- The names of plural forms could not be told from others. -/
  | emptyPluralSeparator
  deriving DecidableEq, Repr

/-- What is said about a flaw. -/
def Flaw.message : Flaw → String
  | badPattern text => "Invalid glob pattern in 'ignores': \"" ++ text ++ "\""
  | sameSeparators separator =>
    "'nsSeparator' and 'keySeparator' must differ (both are \"" ++ String.singleton separator ++
      "\")"
  | emptyPluralSeparator => "'pluralSeparator' must not be empty"

/-- The patterns that some texts write, or the first of them that writes none. -/
def readPatterns : List String → Except Flaw (List Glob)
  | [] => .ok []
  | text :: texts =>
    match Glob.ofText? text with
    | some pattern => do return pattern :: (← readPatterns texts)
    | none => .error (.badPattern text)

/-- The patterns of the files that are passed over. -/
def ignorePatterns (c : Config) : Except Flaw (List Glob) := readPatterns c.ignores

/-- Fails with the first flaw of a configuration. -/
def validate (c : Config) : Except Flaw Unit :=
  match c.ignorePatterns with
  | .error flaw => .error flaw
  | .ok _ =>
    if c.nsSeparator = c.keySeparator then .error (.sameSeparators c.nsSeparator)
    else if c.pluralSeparator.isEmpty then .error .emptyPluralSeparator
    else .ok ()

end Config

end MessageKeys
