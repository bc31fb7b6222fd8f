import MessageKeys.Files.Entry

/-!
# Where paths lead

A path is followed part by part from the root of all files, and all that matters on the way is what
names lead to. An empty part or a dot stays where it is and `..` goes back up, to the directory that
was really gone through. A link goes on along the parts of its target, from the root or from the
directory that the link is in, and then along what is left of the path; only so many links are
followed. At its end a path leads to a file or a directory, or to a free place in a directory where
a file can be made, which may not be in the directory of the name that was written.

## Main definitions

* `MessageKeys.AccessError` — why a path cannot be read or written, with `AccessError.message`.
* `MessageKeys.Destination` — where a path leads.
* `MessageKeys.Entry.resolve` — the destination of some parts of a path from a directory.
* `MessageKeys.Entry.find`, `MessageKeys.Entry.holds` — the entry at an absolute path.
* `MessageKeys.Entry.readText`, `MessageKeys.Entry.write` — the text of a file, and a file with
  other bytes.
-/

namespace MessageKeys

/-- Why a path cannot be read or written. -/
inductive AccessError where
  /-- There is nothing at the path. -/
  | missing
  /-- The path goes through a file. -/
  | notDirectory
  /-- There is a directory at the path. -/
  | directory
  /-- The file does not hold text. -/
  | notText
  /-- The path goes through more links than are followed. -/
  | tooManyLinks
  deriving DecidableEq, Repr

/-- What is said about an access error. -/
def AccessError.message : AccessError → String
  | missing => "No such file or directory (os error 2)"
  | notDirectory => "Not a directory (os error 20)"
  | directory => "Is a directory (os error 21)"
  | notText => "stream did not contain valid UTF-8"
  | tooManyLinks => "Too many levels of symbolic links (os error 40)"

/-- Where a path leads; the names are those that lead there without links. -/
inductive Destination where
  /-- To a file or a directory. -/
  | found (names : List String)
  /-- To a place in a directory where there is nothing. -/
  | free (names : List String)
  /-- Nowhere. -/
  | failed (cause : AccessError)
  deriving DecidableEq, Repr

/-- The names that the target of a link is followed from, for a link in the directory `here`. -/
def Path.startFrom (target : Path) (here : List String) : List String :=
  if target.isAbsolute then [] else here

namespace Entry

/-! ### Following paths -/

/-- Follows the parts of a path from the directory `here` to their end or to a link, where `atLink`
goes on from the directory of the link, its target and the parts behind it. -/
def walk (look : List String → Option Kind)
    (atLink : (here : List String) → (target : Path) → (rest : List String) → Destination)
    (here : List String) : List String → Destination
  | [] => .found here
  | part :: parts =>
    if Path.isTrivial part then walk look atLink here parts
    else if part = ".." then walk look atLink here.dropLast parts
    else
      match look (here ++ [part]) with
      | some .directory => walk look atLink (here ++ [part]) parts
      | some (.file _) =>
        if parts.isEmpty then .found (here ++ [part]) else .failed .notDirectory
      | some (.link target) => atLink here target parts
      | none => if parts.isEmpty then .free (here ++ [part]) else .failed .missing

/-- The destination of some parts of a path from the directory `here`, where `look` tells what names
lead to and no more than `links` links are followed. -/
def resolve (look : List String → Option Kind) : (links : Nat) → (here parts : List String) →
    Destination
  | 0 => walk look fun _ _ _ => .failed .tooManyLinks
  | links + 1 => walk look fun here target rest =>
    resolve look links (target.startFrom here) (target.split.2 ++ rest)

/-- How many links are followed on the way along a path. -/
def linkBound : Nat := 40

/-- Where an absolute path leads. -/
def destination (root : Entry) (p : Path) : Destination :=
  match p.split with
  | (.root, parts) => resolve root.kindAt? linkBound [] parts
  | _ => .failed .missing

/-- The entry at an absolute path. -/
def find (root : Entry) (p : Path) : Except AccessError Entry :=
  match root.destination p with
  | .found names => (root.at? names).elim (.error .missing) .ok
  | .free _ => .error .missing
  | .failed cause => .error cause

/-- Whether there is an entry at an absolute path. -/
def holds (root : Entry) (p : Path) : Bool := (root.find p).isOk

/-! ### Reading and writing -/

/-- The text of the file at an absolute path. -/
def readText (root : Entry) (p : Path) : Except AccessError String :=
  match root.find p with
  | .ok (file bytes) =>
    match String.fromUTF8? bytes with
    | some text => .ok text
    | none => .error .notText
  | .ok (directory _) => .error .directory
  -- No path leads to a link.
  | .ok (link _) => .error .missing
  | .error e => .error e

/-- The files with these bytes in the file at an absolute path, which is made if it is not there. -/
def write (root : Entry) (p : Path) (bytes : ByteArray) : Except AccessError Entry :=
  match root.destination p with
  | .found names =>
    match root.kindAt? names with
    | some (.file _) => .ok (root.put names (.file bytes))
    | _ => .error .directory
  | .free names => .ok (root.put names (.file bytes))
  | .failed cause => .error cause

end Entry

end MessageKeys
