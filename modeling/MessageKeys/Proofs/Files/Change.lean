import Mathlib.Tactic.ByContra
import Mathlib.Tactic.SplitIfs
import MessageKeys.Proofs.Files.Above
import MessageKeys.Proofs.Files.Destination

/-!
# Writing one file

A file is written at a path under which nothing is found. Such a path leads to a free place in a
directory. After this the place has the file, and all other names lead to what they led to before:
to a directory, a file with the same bytes, a link with the same target, or to nothing. What a
directory is said to be does not depend on what is in it, so this covers the directories above the
new file too. From then on the path leads to the file, whose text is read there.

A working directory is written as the system writes it, without links on the way. There a name leads
to the place of this name, unless a link has the name.

## Main definitions

* `MessageKeys.Path.IsPlain` — an absolute path as the system writes it.
* `MessageKeys.Entry.IsWorkingDirectory` — a plain path to a directory.

## Main results

* `MessageKeys.Entry.kindAt?_put` — what all names lead to after a file has been made.
* `MessageKeys.Entry.exists_of_write` — what is written at a path under which nothing is found.
* `MessageKeys.Entry.find_of_write`, `MessageKeys.Entry.readText_of_write` — what is found from then
  on.
* `MessageKeys.Entry.IsWorkingDirectory.holds_child_iff`,
  `MessageKeys.Entry.IsWorkingDirectory.write_child` — names in a working directory.
-/

namespace MessageKeys

/-! ### Plain paths -/

namespace Path

variable {p : Path} {name : String}

/-- An absolute path without dots, doubled slashes or a slash at its end. -/
def IsPlain (p : Path) : Prop := p = ofSplit .root p.names ∧ ∀ name ∈ p.names, IsName name

instance (p : Path) : Decidable p.IsPlain := inferInstanceAs (Decidable (_ ∧ _))

theorem IsPlain.base_eq (h : p.IsPlain) : p.base = .root := by
  rw [h.1]
  exact base_ofSplit_root _

theorem dropSlash_eq_self {names : List String} (h : ∀ name ∈ names, IsName name) :
    dropSlash names = names := by
  unfold dropSlash
  split
  next hlast => exact absurd rfl (h "" (List.mem_of_getLast? hlast)).ne_empty
  next => rfl

theorem split_child_ofSplit {names : List String} (h : ∀ name ∈ names, IsName name)
    (name : String) : ((ofSplit .root names).child name).split = (.root, names ++ [name]) := by
  cases names with
  | nil =>
    have hsplit : (ofSplit .root []).split = (.root, [""]) := rfl
    exact split_child hsplit name
  | cons first rest =>
    have hsplit : (ofSplit .root (first :: rest)).split = (.root, first :: rest) := rfl
    rw [split_child hsplit, dropSlash_eq_self h]

theorem IsPlain.split_child (h : p.IsPlain) (name : String) :
    (p.child name).split = (.root, p.names ++ [name]) := by
  conv_lhs => rw [h.1]
  exact split_child_ofSplit h.2 name

/-- Going down from a plain path and up again leads back to it. -/
theorem IsPlain.parent?_child (h : p.IsPlain) (hname : IsName name) :
    (p.child name).parent? = some p := by
  have hbase : (p.child name).base = .root := base_child h.base_eq name
  have hends : ((p.names.reverse).dropWhile isTrivial).reverse = p.names := by
    rw [← trimEnd_reverse, List.reverse_reverse, trimEnd_eq_self h.2]
  rw [parent?, above_eq_aboveParts hbase, h.split_child, List.reverse_append,
    List.reverse_singleton, List.singleton_append, aboveParts_root_cons hname.isTrivial_eq, hends,
    ← h.1, List.head?_cons]

end Path

namespace Entry

variable {files files' : Entry} {p : Path} {names dirs : List String} {name : String}

/-! ### Making a file -/

theorem kindAt?_file (bytes : ByteArray) (names : List String) :
    (file bytes).kindAt? names = if names = [] then some (.file bytes) else none := by
  cases names <;> simp [kind]

theorem lookup_setName (name other : String) (new : Entry) (entries : List (String × Entry)) :
    (setName name new entries).lookup other =
      if other = name then some new else entries.lookup other := by
  induction entries with
  | nil =>
    by_cases h : other = name
    · simp [setName, h]
    · simp [setName, h, List.lookup_cons, beq_false_of_ne h]
  | cons e entries ih =>
    obtain ⟨first, old⟩ := e
    by_cases hfirst : first = name
    · subst hfirst
      by_cases h : other = first
      · simp [setName, h]
      · simp [setName, h, List.lookup_cons, beq_false_of_ne h]
    · by_cases h : other = first
      · subst h
        simp [setName, hfirst]
      · simp [setName, hfirst, List.lookup_cons, beq_false_of_ne h, ih]

/-- After a file has been made in a directory under a new name, this name leads to it, and all other
names lead to what they led to before. -/
theorem kindAt?_put (bytes : ByteArray) (hdirs : files.kindAt? dirs = some .directory)
    (hnew : files.kindAt? (dirs ++ [name]) = none) (names : List String) :
    (files.put (dirs ++ [name]) (.file bytes)).kindAt? names =
      if names = dirs ++ [name] then some (.file bytes) else files.kindAt? names := by
  induction dirs generalizing files names with
  | nil =>
    cases files with
    | file | link => simp [kind] at hdirs
    | directory entries =>
      have hlookup : entries.lookup name = none := by
        cases h : entries.lookup name with
        | none => rfl
        | some below => simp [h] at hnew
      rw [List.nil_append, put]
      cases names with
      | nil => simp [kind]
      | cons first rest =>
        rw [kindAt?_cons, kindAt?_cons, entries_directory, entries_directory, lookup_setName, put]
        by_cases h : first = name
        · simp [h, hlookup, kindAt?_file]
        · simp [h]
  | cons dir dirs ih =>
    cases files with
    | file | link => simp at hdirs
    | directory entries =>
      rw [kindAt?_cons, entries_directory, Option.bind_eq_some_iff] at hdirs
      obtain ⟨below, hlookup, hdirs⟩ := hdirs
      rw [List.cons_append, kindAt?_cons, entries_directory, hlookup, Option.bind_some] at hnew
      rw [List.cons_append, put, entries_directory, hlookup, Option.getD_some]
      cases names with
      | nil => simp [kind]
      | cons first rest =>
        rw [kindAt?_cons, kindAt?_cons, entries_directory, entries_directory, lookup_setName]
        by_cases h : first = dir
        · simp [h, hlookup, ih hdirs hnew]
        · simp [h]

/-! ### Writing where nothing is found -/

section Write

variable {bytes : ByteArray} (hroot : files.kindAt? [] = some .directory)
  (hnew : files.holds p = false) (h : files.write p bytes = .ok files')

include hroot hnew h

/-- A file that is written where nothing was found is made in a free place in some directory. -/
theorem exists_of_write :
    ∃ place, files.destination p = .free place ∧ files.kindAt? place = none ∧
      ∀ names, files'.kindAt? names =
        if names = place then some (.file bytes) else files.kindAt? names := by
  rw [write] at h
  cases hdestination : files.destination p with
  | failed =>
    rw [hdestination] at h
    cases h
  | found names =>
    have hnone : files.kindAt? names = none := by
      by_contra hsome
      exact Bool.eq_false_iff.mp hnew (holds_iff.mpr ⟨names, hdestination, hsome⟩)
    simp [hdestination, hnone] at h
  | free place =>
    rw [hdestination] at h
    obtain rfl := Except.ok.inj h
    have hbase : p.base = .root := base_eq_root_of_destination hdestination (by simp)
    obtain ⟨dirs, name, rfl, hdirs, hnone⟩ :=
      exists_of_resolve_eq_free hroot ((destination_eq hbase).symm.trans hdestination)
    exact ⟨_, rfl, hnone, kindAt?_put bytes hdirs hnone⟩

theorem extends_of_write : files.Extends files' := by
  obtain ⟨place, -, hplace, hkind⟩ := exists_of_write hroot hnew h
  intro names kind hnames
  rw [hkind, if_neg, hnames]
  rintro rfl
  simp [hplace] at hnames

/-- What has been written is found. -/
theorem find_of_write : files'.find p = .ok (.file bytes) := by
  obtain ⟨place, hdestination, -, hkind⟩ := exists_of_write hroot hnew h
  have hfile : files'.kindAt? place = some (.file bytes) := by rw [hkind, if_pos rfl]
  have hfound : files'.destination p = .found place :=
    destination_of_extends (extends_of_write hroot hnew h) (.inr ⟨hdestination, bytes, hfile⟩)
  obtain ⟨entry, hentry, hkind⟩ := Option.map_eq_some_iff.mp hfile
  cases entry with
  | directory | link => cases hkind
  | file other =>
    cases hkind
    exact find_eq_ok_iff.mpr ⟨place, hfound, hentry⟩

theorem holds_of_write : files'.holds p = true :=
  holds_iff_exists_find.mpr ⟨_, find_of_write hroot hnew h⟩

end Write

/-- A text that has been written is read. -/
theorem readText_of_write {text : String} (hroot : files.kindAt? [] = some .directory)
    (hnew : files.holds p = false) (h : files.write p text.toUTF8 = .ok files') :
    files'.readText p = .ok text := by
  have htext : String.fromUTF8? text.toUTF8 = some text := by
    simp only [String.fromUTF8?, String.toUTF8_eq_toByteArray, text.isValidUTF8]
    rfl
  rw [readText, find_of_write hroot hnew h]
  simp only [htext]

/-! ### Names in a working directory -/

/-- A plain path to a directory, as a program is given for its working directory. -/
structure IsWorkingDirectory (files : Entry) (p : Path) : Prop where
  isPlain : p.IsPlain
  kindAt? : files.kindAt? p.names = some .directory

namespace IsWorkingDirectory

theorem kindAt?_root (h : files.IsWorkingDirectory p) : files.kindAt? [] = some .directory := by
  by_cases hnil : p.names = []
  · exact hnil ▸ h.kindAt?
  · exact kindAt?_of_append h.kindAt? hnil

theorem of_extends (h : files.IsWorkingDirectory p) (hmore : files.Extends files') :
    files'.IsWorkingDirectory p :=
  ⟨h.isPlain, hmore _ _ h.kindAt?⟩

theorem destination_child (h : files.IsWorkingDirectory p) (name : String) :
    files.destination (p.child name) = resolve files.kindAt? linkBound p.names [name] := by
  rw [destination, h.isPlain.split_child]
  exact resolve_directories h.kindAt? h.isPlain.2 [name]

/-- Where no link has a name in the directory, something is found under the name exactly if there is
an entry of it. -/
theorem holds_child_iff (h : files.IsWorkingDirectory p) (hname : Path.IsName name)
    (hlink : ∀ target, files.kindAt? (p.names ++ [name]) ≠ some (.link target)) :
    files.holds (p.child name) = true ↔ files.kindAt? (p.names ++ [name]) ≠ none := by
  rw [holds_iff, h.destination_child]
  match hkind : files.kindAt? (p.names ++ [name]) with
  | some (.link target) => exact absurd hkind (hlink target)
  | some .directory => simp [resolve_directory hname hkind, hkind]
  | some (.file bytes) => simp [resolve_file hname hkind, hkind]
  | none => simp [resolve_nothing hname hkind]

/-- Where there is no entry of a name in the directory, a file is made under it. -/
theorem write_child (h : files.IsWorkingDirectory p) (hname : Path.IsName name)
    (hnew : files.kindAt? (p.names ++ [name]) = none) (bytes : ByteArray) :
    files.write (p.child name) bytes = .ok (files.put (p.names ++ [name]) (.file bytes)) := by
  rw [write, h.destination_child, resolve_nothing hname hnew, if_pos rfl]

end IsWorkingDirectory

end Entry

end MessageKeys
