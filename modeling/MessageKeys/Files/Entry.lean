import MessageKeys.Files.Path

/-!
# Files and directories

The files that a run can see, as a value: a tree of directories whose leaves are files with their
bytes, and links. A link has a path for its target and stands for what that leads to. Names are
texts here, so that every name has a stem and can be shown; on some systems there are names that are
no text.

Names lead down from a directory without following links. What they lead to is told apart by its
*kind*: a file with these bytes, a link with this target, or a directory, whatever is in it.

## Main definitions

* `MessageKeys.Entry` — a file, a link, or a directory with all that is in it.
* `MessageKeys.Entry.at?` — the entry that some names lead to.
* `MessageKeys.Entry.Kind`, `MessageKeys.Entry.kindAt?` — what it is.
* `MessageKeys.Entry.filesBelow` — all files below a directory, in the order of their names.
* `MessageKeys.Entry.put`, `MessageKeys.Entry.erase` — a change at one place.
-/

namespace MessageKeys

/-- A file, a directory, or a link. -/
inductive Entry where
  | file (bytes : ByteArray)
  | directory (entries : List (String × Entry))
  /-- What its target leads to, as seen from the directory that the link is in. -/
  | link (target : Path)
  deriving Inhabited

namespace Entry

/-! ### Names -/

/-- The entries of a directory. -/
def entries : Entry → List (String × Entry)
  | directory entries => entries
  | file _ | link _ => []

/-- The entry that some names lead to, from directory to directory. -/
def at? : Entry → List String → Option Entry
  | entry, [] => some entry
  | entry, name :: names => (entry.entries.lookup name).bind fun below => below.at? names

/-- What an entry is, but for what is in it. -/
inductive Kind where
  | file (bytes : ByteArray)
  | directory
  | link (target : Path)

/-- What the entry is. -/
def kind : Entry → Kind
  | file bytes => .file bytes
  | directory _ => .directory
  | link target => .link target

/-- What some names lead to. -/
def kindAt? (files : Entry) (names : List String) : Option Kind := (files.at? names).map kind

/-! ### Listing files -/

mutual

/-- The files at and below an entry, whose path is `p`: directory by directory, in the order of the
names in each. Links are not followed. -/
def filesBelow (p : Path) : Entry → List Path
  | file _ => [p]
  | directory entries =>
    ((filesIn p entries).mergeSort fun x y => decide (x.1 ≤ y.1)).flatMap Prod.snd
  | link _ => []

/-- The files at and below each entry of the directory at `p`, under its name. -/
def filesIn (p : Path) : List (String × Entry) → List (String × List Path)
  | [] => []
  | (name, entry) :: entries => (name, filesBelow (p.child name) entry) :: filesIn p entries

end

/-! ### Changes -/

/-- The entries of a directory with `entry` under a name. -/
def setName (name : String) (entry : Entry) : List (String × Entry) → List (String × Entry)
  | [] => [(name, entry)]
  | (other, old) :: rest =>
    if other = name then (other, entry) :: rest else (other, old) :: setName name entry rest

/-- The tree with `new` at the place that some names lead to; directories on the way are made. -/
def put : Entry → List String → (new : Entry) → Entry
  | _, [], new => new
  | entry, name :: names, new =>
    let below := (entry.entries.lookup name).getD (directory [])
    directory (setName name (below.put names new) entry.entries)

/-- The tree without the entry that some names lead to. -/
def erase : Entry → List String → Entry
  | entry, [] => entry
  | entry, [name] => directory (entry.entries.filter fun other => other.1 != name)
  | entry, name :: names =>
    match entry.entries.lookup name with
    | some below => directory (setName name (below.erase names) entry.entries)
    | none => entry

end Entry

end MessageKeys
