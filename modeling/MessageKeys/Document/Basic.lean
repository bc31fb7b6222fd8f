import MessageKeys.Document.Node
import MessageKeys.Files.Destination
import MessageKeys.Json.Reader
import MessageKeys.Text.Blank
import MessageKeys.Yaml.Document

/-!
# Documents

A document is a file of messages. Its namespace is the name of the file without the extension, and
its locale is the first directory on the way from the messages root to the file, if there is one.

Files whose names show no format are passed over when the documents below a messages root are
loaded, and every name is a text here. That a file is refused for its name can only happen where its
path is given.

## Main definitions

* `MessageKeys.Document` — a document, with `Document.tree`, its tree of messages.
* `MessageKeys.LoadError` — why there is no document, with `LoadError.message`.
* `MessageKeys.Document.rootOf` — the document that a text writes.
* `MessageKeys.Document.load` — the document in a file.
-/

namespace MessageKeys

/-- A file of messages. -/
structure Document where
  path : Path
  /-- The namespace that keys name. -/
  ns : String
  locale? : Option String
  /-- All that is in the document. -/
  root : DocumentNode
  deriving Repr

/-- Why there is no document, or no catalog of documents. -/
inductive LoadError where
  /-- There is no messages root. -/
  | missingRoot (root : Path)
  /-- The messages root is a file. -/
  | rootNotDirectory (root : Path)
  /-- The name of the file shows no format, or it has none. -/
  | unsupported (file : Path)
  | unreadable (file : Path) (cause : AccessError)
  | badJson (file : Path) (cause : Json.Error)
  | badYaml (file : Path) (cause : Yaml.Fault)
  deriving Repr

/-- What is said about a load error. -/
def LoadError.message : LoadError → String
  | missingRoot root =>
    "Messages directory '" ++ root.text ++ "' does not exist.\n" ++
      "Hint: Check your .keyrefrc.json 'messagesRoot' setting."
  | rootNotDirectory root => "'" ++ root.text ++ "' is not a directory."
  | unsupported file => "Unsupported translation file: " ++ file.text
  | unreadable file cause => "Failed to read " ++ file.text ++ ": " ++ cause.message
  | badJson file cause => "Failed to parse JSON file " ++ file.text ++ ": " ++ cause.message
  | badYaml file cause => "Failed to parse YAML file " ++ file.text ++ ": " ++ cause.message

/-- The format of the file at a path, by its extension. -/
def Path.format? (p : Path) : Option Format := p.extension?.bind Format.ofExtension?

/-- The locale of a file below a messages root: the first of several names on the way to it. -/
def Path.locale? (p root : Path) : Option String :=
  (p.relativeTo? root).bind fun relative =>
    match relative.names with
    | first :: _ :: _ => some first
    | _ => none

namespace Document

/-- The format of the document. -/
def format (d : Document) : Format := d.root.format

/-- The messages of the document. -/
def tree (d : Document) : Tree := d.root.tree

/-- What a text writes in a format. Blank YAML text is a document without messages. -/
def rootOf (format : Format) (file : Path) (text : String) : Except LoadError DocumentNode :=
  match format with
  | .json =>
    match Json.readDocument text with
    | .ok value => .ok (.json value)
    | .error cause => .error (.badJson file cause)
  | .yaml =>
    if isBlank text then .ok (.yaml (.mapping []))
    else
      match Yaml.read text with
      | .ok value => .ok (.yaml value)
      | .error cause => .error (.badYaml file cause)

/-- The document in the file at a path below a messages root. -/
def load (files : Entry) (messagesRoot file : Path) : Except LoadError Document :=
  match file.format?, file.stem? with
  | some format, some ns =>
    match files.readText file with
    | .ok text => do
      return ⟨file, ns, file.locale? messagesRoot, ← rootOf format file text⟩
    | .error cause => .error (.unreadable file cause)
  | _, _ => .error (.unsupported file)

end Document

end MessageKeys
