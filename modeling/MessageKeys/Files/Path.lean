/-!
# Paths

A path is kept as it is written: the texts between its slashes, empty ones and dots included, so
that it is shown as it was given. Its *components* are what it means: empty texts and dots between
slashes do not count, and a dot counts only where the path starts with it.

Walking up and comparing paths look at the text alone. `a/b/..` is below `a/b` in this sense, even
though both it and `a` name the same directory.

## Main definitions

* `MessageKeys.Path` — a path, read by `Path.ofText` and shown by `Path.text`.
* `MessageKeys.Path.base`, `MessageKeys.Path.names` — the components of the path.
* `MessageKeys.Path.join` — a path below another.
* `MessageKeys.Path.above`, `MessageKeys.Path.parent?` — the paths above.
* `MessageKeys.Path.relativeTo?` — a path as seen from one above it.
* `MessageKeys.Path.fileName?`, `MessageKeys.Path.stem?`, `MessageKeys.Path.extension?`.
-/

namespace MessageKeys

/-- The texts between the slashes of a path; an empty text at the start, with another after it, is
the root. -/
structure Path where
  parts : List String
  deriving DecidableEq, Repr, Inhabited

namespace Path

/-- The path that a text writes. -/
def ofText (text : String) : Path := ⟨text.splitOn "/"⟩

/-- The text of a path. -/
def text (p : Path) : String := String.intercalate "/" p.parts

/-- A part that does not count as a component. -/
def isTrivial (part : String) : Bool := part == "" || part == "."

/-- The path without the trivial parts at its end. -/
def trimEnd (parts : List String) : List String := (parts.reverse.dropWhile isTrivial).reverse

/-! ### Components -/

/-- What a path starts from. -/
inductive Base where
  /-- The root of all files. -/
  | root
  /-- The directory at hand, named by a dot. -/
  | here
  /-- The directory at hand, not named. -/
  | unnamed
  deriving DecidableEq, Repr

/-- What the path starts from, and the parts behind that. -/
def split (p : Path) : Base × List String :=
  match p.parts with
  | "" :: part :: parts => (.root, part :: parts)
  | "." :: parts => (.here, parts)
  | parts => (.unnamed, parts)

/-- The path of a base and the parts behind it. -/
def ofSplit : Base → List String → Path
  | .root, [] => ⟨["", ""]⟩
  | .root, parts => ⟨"" :: parts⟩
  | .here, parts => ⟨"." :: parts⟩
  | .unnamed, [] => ⟨[""]⟩
  | .unnamed, parts => ⟨parts⟩

/-- What the path starts from. -/
def base (p : Path) : Base := p.split.1

/-- The names of the path in order; `..` counts as one. -/
def names (p : Path) : List String := p.split.2.filter fun part => !isTrivial part

/-- Whether the path starts from the root. -/
def isAbsolute (p : Path) : Bool := p.base == .root

/-! ### Going down and up -/

/-- The path `sub` as seen from `base`. A slash is set between them unless there is one or `base` is
empty; an absolute path is the same from everywhere. -/
def join (base sub : Path) : Path :=
  if sub.isAbsolute then sub
  else if base.parts.getLast? = some "" then ⟨base.parts.dropLast ++ sub.parts⟩
  else ⟨base.parts ++ sub.parts⟩

/-- The entry of this name below a path. -/
def child (p : Path) (name : String) : Path := p.join ⟨[name]⟩

/-- The paths above one that starts from `base`, whose parts are given from the end: each lacks one
more component. -/
def aboveParts (base : Base) : List String → List Path
  | [] => if base = .here then [ofSplit .unnamed []] else []
  | part :: parts =>
    if isTrivial part then aboveParts base parts
    else ofSplit base (trimEnd parts.reverse) :: aboveParts base parts

/-- The paths above a path, the nearest first. -/
def above (p : Path) : List Path := aboveParts p.split.1 p.split.2.reverse

/-- The path without its last component, unless that is the root or there is none. -/
def parent? (p : Path) : Option Path := p.above.head?

/-- Drops the first `n` names with all trivial parts around them. -/
def dropNames : Nat → List String → List String
  | _, [] => []
  | n, part :: parts =>
    if isTrivial part then dropNames n parts
    else
      match n with
      | 0 => part :: parts
      | n + 1 => dropNames n parts

/-- The path as seen from `above`, if its components start with those of `above`. -/
def relativeTo? (p above : Path) : Option Path :=
  if above.base = .unnamed ∧ above.names.isEmpty then some p
  else if above.base = p.base ∧ above.names.isPrefixOf p.names then
    some (ofSplit .unnamed (trimEnd (dropNames above.names.length p.split.2)))
  else none

/-- Goes on from the place that some names lead to, by one more name. -/
def goTo (above : List String) (name : String) : List String :=
  if name = ".." then above.dropLast else above ++ [name]

/-- The absolute path with its dots carried out. -/
def canonical (p : Path) : Path := ofSplit .root (p.names.foldl goTo [])

/-! ### Names of files -/

/-- The last component, if it is a name. -/
def fileName? (p : Path) : Option String :=
  match p.names.getLast? with
  | some ".." => none
  | name? => name?

/-- A name as the part before its last dot and the part behind it. A dot at the start does not
count. -/
def splitName (name : String) : String × Option String :=
  let behind := name.toList.reverse.takeWhile (· != '.')
  match (name.toList.reverse.dropWhile (· != '.')).drop 1 with
  | [] => (name, none)
  | before => (String.ofList before.reverse, some (String.ofList behind.reverse))

/-- The file name without its extension. -/
def stem? (p : Path) : Option String := p.fileName?.map fun name => (splitName name).1

/-- What stands behind the last dot of the file name. -/
def extension? (p : Path) : Option String := p.fileName?.bind fun name => (splitName name).2

end Path

end MessageKeys
