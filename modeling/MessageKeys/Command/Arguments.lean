import MessageKeys.Command.Basic

/-!
# Arguments

The command that the arguments of a run spell. An option that takes a value has it behind an equals
sign or in the next argument, unless that looks like an option itself. The value of the next
argument is looked at only when the option is *settled*: before another option or a key counts, or
at the end. Behind `--` all arguments are keys.

## Main definitions

* `MessageKeys.Arguments` — what has been read of the arguments of a command.
* `MessageKeys.Arguments.settle` — lets the last option count.
* `MessageKeys.Arguments.readAll` — reads the arguments of a command.
* `MessageKeys.Command.ofArguments` — the command that the arguments of a run spell.
-/

namespace MessageKeys

/-- The commands that take options. -/
inductive Verb where
  | resolve
  | complete
  | init
  deriving DecidableEq, Repr

/-- The options that take a value. -/
inductive ValueOption where
  | messagesRoot
  | defaultNamespace
  | format
  | fragments
  deriving DecidableEq, Repr

/-- The options that take none. -/
inductive SwitchOption where
  | verbose
  | help
  deriving DecidableEq, Repr

/-- What a name of an option stands for. -/
inductive OptionName where
  | value (o : ValueOption)
  | switch (o : SwitchOption)
  deriving DecidableEq, Repr

/-- The command with a name. -/
def Verb.ofName? : String → Option Verb
  | "resolve" => some resolve
  | "complete" => some complete
  | "init" => some init
  | _ => none

/-- Whether a command can be asked for by a name. -/
def isCommandName (name : String) : Bool := (Verb.ofName? name).isSome || name == "help"

/-- The option of a command with a long name. -/
def Verb.longOption? (verb : Verb) (name : String) : Option OptionName :=
  match verb, name with
  | _, "help" => some (.switch .help)
  | .init, _ => none
  | _, "verbose" => some (.switch .verbose)
  | _, "messages-root" => some (.value .messagesRoot)
  | _, "default-namespace" => some (.value .defaultNamespace)
  | _, "format" => some (.value .format)
  | .resolve, "fragments" => some (.value .fragments)
  | _, _ => none

/-- The option of a command with a short name. -/
def Verb.shortOption? (verb : Verb) (letter : Char) : Option SwitchOption :=
  match verb, letter with
  | _, 'h' => some .help
  | .init, _ => none
  | _, 'v' => some .verbose
  | _, _ => none

/-- Whether a command takes one more key behind some others. -/
def Verb.takesKey (verb : Verb) (others : Nat) : Bool :=
  match verb with
  | .resolve => true
  | .complete => others == 0
  | .init => false

/-- What has been read of the arguments of a command. -/
structure Arguments where
  /-- The keys, the last one first. -/
  keys : List String := []
  messagesRoot? : Option Path := none
  defaultNamespace? : Option String := none
  format? : Option OutputFormat := none
  fragments? : Option Path := none
  verbose : Bool := false
  /-- The last option, if it takes a value and is not settled, with the argument behind it. -/
  open? : Option (ValueOption × Option String) := none
  deriving DecidableEq, Repr

namespace Arguments

/-! ### Options -/

/-- Whether an option that takes a value has been given. -/
def has (a : Arguments) : ValueOption → Bool
  | .messagesRoot => a.messagesRoot?.isSome
  | .defaultNamespace => a.defaultNamespace?.isSome
  | .format => a.format?.isSome
  | .fragments => a.fragments?.isSome

/-- A path that is given as a value; it may not be empty. -/
def pathOf (value : String) : Except UsageError Path :=
  if value.isEmpty then .error .invalidValue else .ok (Path.ofText value)

/-- The output format with a name. -/
def formatOf (value : String) : Except UsageError OutputFormat :=
  match value with
  | "text" => .ok .text
  | "json" => .ok .json
  | _ => .error .invalidValue

/-- Lets an option with its value count, unless it has been given before. -/
def give (a : Arguments) (o : ValueOption) (value : String) : Except UsageError Arguments :=
  if a.has o then .error .repeatedOption
  else
    match o with
    | .messagesRoot => do return { a with messagesRoot? := some (← pathOf value) }
    | .defaultNamespace => .ok { a with defaultNamespace? := some value }
    | .format => do return { a with format? := some (← formatOf value) }
    | .fragments => do return { a with fragments? := some (← pathOf value) }

/-- Lets the last option count. -/
def settle (a : Arguments) : Except UsageError Arguments :=
  match a.open? with
  | none => .ok a
  | some (_, none) => .error .invalidValue
  | some (o, some value) => { a with open? := none }.give o value

/-- Lets an option that takes no value count. -/
def switchOn (a : Arguments) (o : SwitchOption) : Except UsageError Arguments := do
  let a ← a.settle
  match o with
  | .help => throw .helpRequested
  | .verbose => if a.verbose then throw .repeatedOption else return { a with verbose := true }

/-- Reads an option by its long name, with the text behind an equals sign. -/
def readLong (verb : Verb) (a : Arguments) (name : String) (value? : Option String) :
    Except UsageError Arguments :=
  match verb.longOption? name, value? with
  | none, _ => .error .unknownArgument
  | some (.switch _), some _ => .error .unexpectedValue
  | some (.switch o), none => a.switchOn o
  | some (.value o), some value => do (← a.settle).give o value
  | some (.value o), none => do return { ← a.settle with open? := some (o, none) }

/-- Reads options by their short names. -/
def readShort (verb : Verb) (a : Arguments) : List Char → Except UsageError Arguments
  | [] => .ok a
  | letter :: letters =>
    match verb.shortOption? letter with
    | none => .error .unknownArgument
    | some o => do readShort verb (← a.switchOn o) letters

/-! ### All arguments -/

/-- Reads a key. -/
def readKey (verb : Verb) (a : Arguments) (key : String) : Except UsageError Arguments :=
  if verb.takesKey a.keys.length then do
    let a ← a.settle
    return { a with keys := key :: a.keys }
  else .error .unknownArgument

/-- The forms of an argument. -/
inductive Form where
  /-- Two hyphens alone. -/
  | separator
  /-- A long name of an option, with the text behind an equals sign. -/
  | long (name : String) (value? : Option String)
  /-- Short names of options. -/
  | short (letters : List Char)
  | plain
  deriving DecidableEq, Repr

/-- The form of an argument. -/
def formOf (argument : String) : Form :=
  match argument.toList with
  | ['-', '-'] => .separator
  | '-' :: '-' :: cs =>
    let value? :=
      match cs.dropWhile (· != '=') with
      | _ :: value => some (String.ofList value)
      | [] => none
    .long (String.ofList (cs.takeWhile (· != '='))) value?
  | '-' :: c :: cs => .short (c :: cs)
  | _ => .plain

/-- Reads an argument that is no option: the value of the last option, or a key. -/
def readPlain (verb : Verb) (a : Arguments) (argument : String) : Except UsageError Arguments :=
  match a.open? with
  | some (o, none) => .ok { a with open? := some (o, some argument) }
  | _ => a.readKey verb argument

/-- Reads the arguments of a command. -/
def readAll (verb : Verb) : Arguments → List String → Except UsageError Arguments
  | a, [] => a.settle
  | a, argument :: rest =>
    match formOf argument with
    | .separator => do (← rest.foldlM (readKey verb) a).settle
    | .long name value? => do readAll verb (← a.readLong verb name value?) rest
    | .short letters => do readAll verb (← a.readShort verb letters) rest
    | .plain => do readAll verb (← a.readPlain verb argument) rest

/-- The common options. -/
def options (a : Arguments) : CommonOptions := ⟨a.messagesRoot?, a.defaultNamespace?, a.verbose⟩

/-- The command that is asked for by its name and its arguments. -/
def command (verb : Verb) (a : Arguments) : Except UsageError Command :=
  let format := a.format?.getD .text
  match verb, a.keys with
  | .resolve, keys => .ok (.resolve keys.reverse a.fragments? format a.options)
  | .complete, [key] => .ok (.complete key format a.options)
  | .complete, _ => .error .missingKey
  | .init, _ => .ok .init

end Arguments

namespace Command

/-- What is wrong with arguments that start with an option. -/
def leadingOption (argument : String) : UsageError :=
  match Arguments.formOf argument with
  | .long "help" none | .short ('h' :: _) => .helpRequested
  | .long "version" none | .short ('V' :: _) => .versionRequested
  | .long "help" (some _) | .long "version" (some _) => .unexpectedValue
  | .long _ _ | .short _ => .unknownArgument
  | .separator | .plain => .unknownCommand

/-- The command that the arguments of a run spell. -/
def ofArguments : List String → Except UsageError Command
  | [] | ["--"] => .ok .overview
  | "--" :: name :: _ =>
    .error (if isCommandName name then .unknownArgument else .unknownCommand)
  | "help" :: names =>
    match names with
    | [] => .error .helpRequested
    | [name] => .error (if isCommandName name then .helpRequested else .unknownCommand)
    | _ => .error .unknownCommand
  | name :: arguments =>
    match Verb.ofName? name with
    | some verb => do (← Arguments.readAll verb {} arguments).command verb
    | none => .error (leadingOption name)

end Command

end MessageKeys
