import MessageKeys.Document.Catalog
import MessageKeys.Proofs.Files.Listing

/-!
# Files of messages

A file of messages stands some directories below a messages root, and its name has a stem and an
extension that shows a format. What it is loaded as depends on nothing but its place and its bytes:
the stem is the namespace, and the first of the directories is the locale.

## Main definitions

* `MessageKeys.MessageFile` — a file with a stem and an extension, some directories down.
* `MessageKeys.MessageFile.IsIn` — the file is below a directory and is to be loaded.
* `MessageKeys.MessageFile.load` — what the file is loaded as.

## Main results

* `MessageKeys.Format.isSome_ofExtension?_iff` — the extensions that show a format.
* `MessageKeys.MessageFile.IsIn.load_eq` — loading from a messages root reads the file alone.
-/

namespace MessageKeys

/-! ### Formats -/

namespace Format

variable {extension : String}

theorem isSome_ofExtension?_iff :
    (ofExtension? extension).isSome ↔
      String.ofList (extension.toList.map Char.toLower) ∈ ["json", "yaml", "yml"] := by
  unfold ofExtension?
  split <;> simp_all

theorem dot_notMem_of_isSome (h : (ofExtension? extension).isSome) :
    '.' ∉ extension.toList := by
  intro hdot
  have hlower : '.' ∈ (String.ofList (extension.toList.map Char.toLower)).toList := by
    rw [String.toList_ofList]
    exact List.mem_map.mpr ⟨'.', hdot, rfl⟩
  rw [isSome_ofExtension?_iff] at h
  generalize String.ofList (extension.toList.map Char.toLower) = lower at h hlower
  simp only [List.mem_cons, List.not_mem_nil, or_false] at h
  obtain rfl | rfl | rfl := h <;> simp at hlower

end Format

/-! ### Files of messages -/

/-- A file with a stem and an extension, some directories down. -/
structure MessageFile where
  directories : List String
  stem : String
  extension : String
  bytes : ByteArray

theorem Path.format?_below {root : Path} {dirs : List String} {name : String}
    (hbase : root.base = .root) (hnames : ∀ n ∈ dirs ++ [name], Path.IsName n) :
    (root.below (dirs ++ [name])).format? = (Path.splitName name).2.bind Format.ofExtension? := by
  rw [Path.format?, Path.extension?, Path.fileName?_below hbase hnames, Option.bind_some]

namespace MessageFile

variable {f : MessageFile} {dir files : Entry} {root : Path} {ignores : List Glob}

/-- The name of the file. -/
def name (f : MessageFile) : String := f.stem ++ "." ++ f.extension

/-- The names that lead to the file. -/
def names (f : MessageFile) : List String := f.directories ++ [f.name]

/-- The path of the file below a messages root. -/
def path (f : MessageFile) (root : Path) : Path := root.below f.names

/-- The file is below the directory `dir`, has an extension that shows a format, in capital letters
or small ones, and is not ignored. A name that has a dot only at its start has no extension. -/
structure IsIn (f : MessageFile) (dir : Entry) (ignores : List Glob) : Prop where
  at?_eq : dir.at? f.names = some (.file f.bytes)
  stem_ne : f.stem ≠ ""
  extension_mem : String.ofList (f.extension.toList.map Char.toLower) ∈ ["json", "yaml", "yml"]
  not_describes : ∀ g ∈ ignores, g.describes (String.intercalate "/" f.names) = false

/-- What the file is loaded as below a messages root. The namespace is its stem, and the locale is
the first directory on the way to it. -/
def load (f : MessageFile) (root : Path) : Except LoadError Document :=
  match Format.ofExtension? f.extension, String.fromUTF8? f.bytes with
  | some format, some text =>
    (Document.rootOf format (f.path root) text).map fun document =>
      ⟨f.path root, f.stem, f.directories.head?, document⟩
  | some _, none => .error (.unreadable (f.path root) .notText)
  | none, _ => .error (.unsupported (f.path root))

theorem IsIn.isSome_format (h : f.IsIn dir ignores) : (Format.ofExtension? f.extension).isSome :=
  Format.isSome_ofExtension?_iff.mpr h.extension_mem

/-! ### Paths below a messages root -/

theorem names_ne_nil (f : MessageFile) : f.names ≠ [] := by simp [names]

theorem splitName_name (hstem : f.stem ≠ "") (h : (Format.ofExtension? f.extension).isSome) :
    Path.splitName f.name = (f.stem, some f.extension) :=
  Path.splitName_append hstem (Format.dot_notMem_of_isSome h)

theorem IsIn.fileName?_path (h : f.IsIn dir ignores) (hbase : root.base = .root)
    (hproper : dir.IsProper) : (f.path root).fileName? = some f.name :=
  Path.fileName?_below hbase (hproper.isName_of_at? h.at?_eq)

theorem IsIn.format?_path (h : f.IsIn dir ignores) (hbase : root.base = .root)
    (hproper : dir.IsProper) : (f.path root).format? = Format.ofExtension? f.extension := by
  rw [path, names, Path.format?_below hbase (hproper.isName_of_at? h.at?_eq),
    splitName_name h.stem_ne h.isSome_format, Option.bind_some]

theorem IsIn.stem?_path (h : f.IsIn dir ignores) (hbase : root.base = .root)
    (hproper : dir.IsProper) : (f.path root).stem? = some f.stem := by
  simp [Path.stem?, h.fileName?_path hbase hproper, splitName_name h.stem_ne h.isSome_format]

theorem IsIn.relativeTo?_path (h : f.IsIn dir ignores) (hbase : root.base = .root)
    (hproper : dir.IsProper) : (f.path root).relativeTo? root = some ⟨f.names⟩ :=
  Path.relativeTo?_below hbase f.names_ne_nil (hproper.isName_of_at? h.at?_eq)

theorem IsIn.locale?_path (h : f.IsIn dir ignores) (hbase : root.base = .root)
    (hproper : dir.IsProper) : (f.path root).locale? root = f.directories.head? := by
  have hnames : (Path.mk f.names).names = f.names :=
    Path.names_mk f.names_ne_nil (hproper.isName_of_at? h.at?_eq)
  rw [Path.locale?, h.relativeTo?_path hbase hproper, Option.bind_some, hnames]
  cases hdirs : f.directories with
  | nil => simp [names, hdirs]
  | cons first rest => cases rest <;> simp [names, hdirs]

theorem IsIn.readText_path (h : f.IsIn dir ignores) (hroot : files.find root = .ok dir)
    (hproper : dir.IsProper) :
    files.readText (f.path root) = (String.fromUTF8? f.bytes).elim (.error .notText) .ok := by
  have hfind : files.find (f.path root) = .ok (.file f.bytes) :=
    Entry.find_below hroot (hproper.isName_of_at? h.at?_eq) h.at?_eq
  simp only [Entry.readText, hfind]
  cases String.fromUTF8? f.bytes <;> rfl

/-- A file is loaded from a messages root by its place below the root and its bytes; nothing else
has a say. -/
theorem IsIn.load_eq (h : f.IsIn dir ignores) (hroot : files.find root = .ok dir)
    (hproper : dir.IsProper) : Document.load files root (f.path root) = f.load root := by
  have hbase := Entry.base_eq_root_of_find hroot
  obtain ⟨format, hformat⟩ := Option.isSome_iff_exists.mp h.isSome_format
  rw [Document.load, h.format?_path hbase hproper, h.stem?_path hbase hproper,
    h.readText_path hroot hproper, load, hformat]
  cases String.fromUTF8? f.bytes with
  | none => rfl
  | some text =>
    simp only [Option.elim_some, h.locale?_path hbase hproper]
    cases Document.rootOf format (f.path root) text <;> rfl

end MessageFile

end MessageKeys
