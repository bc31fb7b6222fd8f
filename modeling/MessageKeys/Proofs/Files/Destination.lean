import MessageKeys.Files.Destination
import MessageKeys.Proofs.Files.Path

/-!
# Following paths

A path is followed part by part, so that a fact about where paths lead has one case for each kind of
part: one that does not count, one that goes back up, and names of directories, files, links and of
nothing. Names that lead down through directories are passed through as they are. Where a path
leads to a free place, there is a directory that this is in; and when files come to be where nothing
was, a path still leads where it led, and to the file that was made in its free place.

## Main definitions

* `MessageKeys.Entry.Extends` — all that is there is there still.

## Main results

* `MessageKeys.Entry.resolve_induction` — what holds of all paths, by their parts.
* `MessageKeys.Entry.resolve_directories`, `MessageKeys.Entry.exists_resolve_append` — going on from
  a directory.
* `MessageKeys.Entry.exists_of_resolve_eq_free` — the free place that a path leads to.
* `MessageKeys.Entry.resolve_of_extends` — where a path leads when there are more files.
* `MessageKeys.Entry.find_eq_ok_iff`, `MessageKeys.Entry.holds_iff` — what is found at a path.
-/

namespace MessageKeys

namespace Entry

variable {files files' entry : Entry} {names dirs : List String} {name : String}

/-! ### Names and kinds -/

@[simp] theorem entries_file (bytes : ByteArray) : (file bytes).entries = [] := rfl

@[simp] theorem entries_directory (entries : List (String × Entry)) :
    (directory entries).entries = entries := rfl

@[simp] theorem entries_link (target : Path) : (link target).entries = [] := rfl

@[simp] theorem at?_nil (entry : Entry) : entry.at? [] = some entry := rfl

@[simp] theorem at?_cons (entry : Entry) (name : String) (names : List String) :
    entry.at? (name :: names) =
      (entry.entries.lookup name).bind fun below => below.at? names := rfl

@[simp] theorem kindAt?_nil (entry : Entry) : entry.kindAt? [] = some entry.kind := rfl

@[simp] theorem kindAt?_cons (entry : Entry) (name : String) (names : List String) :
    entry.kindAt? (name :: names) =
      (entry.entries.lookup name).bind fun below => below.kindAt? names := by
  rw [kindAt?, at?_cons, Option.map_bind]
  rfl

theorem at?_append (entry : Entry) (dirs names : List String) :
    entry.at? (dirs ++ names) = (entry.at? dirs).bind fun below => below.at? names := by
  induction dirs generalizing entry with
  | nil => rfl
  | cons dir dirs ih =>
    rw [List.cons_append, at?_cons, at?_cons, Option.bind_assoc]
    exact Option.bind_congr fun below _ => ih below

theorem kindAt?_append (entry : Entry) (dirs names : List String) :
    entry.kindAt? (dirs ++ names) = (entry.at? dirs).bind fun below => below.kindAt? names := by
  rw [kindAt?, at?_append, Option.map_bind]
  rfl

/-- What is in an entry is in a directory. -/
theorem kindAt?_of_append {kind : Kind} (h : files.kindAt? (dirs ++ names) = some kind)
    (hne : names ≠ []) : files.kindAt? dirs = some .directory := by
  obtain ⟨name, rest, rfl⟩ := List.exists_cons_of_ne_nil hne
  rw [kindAt?_append] at h
  obtain ⟨below, hbelow, hkind⟩ := Option.bind_eq_some_iff.mp h
  rw [kindAt?, hbelow]
  cases below with
  | directory => rfl
  | file | link => simp at hkind

theorem kindAt?_dropLast (h : files.kindAt? dirs = some .directory) :
    files.kindAt? dirs.dropLast = some .directory := by
  obtain rfl | ⟨above, name, rfl⟩ := List.eq_nil_or_concat' dirs
  · exact h
  · rw [List.dropLast_concat]
    exact kindAt?_of_append h (List.cons_ne_nil _ _)

theorem kindAt?_startFrom (h : files.kindAt? dirs = some .directory) (target : Path) :
    files.kindAt? (target.startFrom dirs) = some .directory := by
  rw [Path.startFrom]
  split
  · by_cases hnil : dirs = []
    · rwa [hnil] at h
    · exact kindAt?_of_append h hnil
  · exact h

/-! ### One part -/

section Parts

variable {look : List String → Option Kind} {links : Nat} {here parts : List String}

@[simp] theorem resolve_nil (look : List String → Option Kind) (links : Nat) (here : List String) :
    resolve look links here [] = .found here := by
  cases links <;> rfl

theorem resolve_trivial {part : String} (h : Path.isTrivial part = true) :
    resolve look links here (part :: parts) = resolve look links here parts := by
  cases links <;> simp [resolve, walk, h]

theorem resolve_up :
    resolve look links here (".." :: parts) = resolve look links here.dropLast parts := by
  have h : Path.isTrivial ".." = false := by decide
  cases links <;> simp [resolve, walk, h]

theorem resolve_directory (hname : Path.IsName name)
    (h : look (here ++ [name]) = some .directory) :
    resolve look links here (name :: parts) = resolve look links (here ++ [name]) parts := by
  cases links <;> simp [resolve, walk, hname.isTrivial_eq, hname.2, h]

theorem resolve_file {bytes : ByteArray} (hname : Path.IsName name)
    (h : look (here ++ [name]) = some (.file bytes)) :
    resolve look links here (name :: parts) =
      if parts = [] then .found (here ++ [name]) else .failed .notDirectory := by
  cases links <;> simp [resolve, walk, hname.isTrivial_eq, hname.2, h]

theorem resolve_link {target : Path} (hname : Path.IsName name)
    (h : look (here ++ [name]) = some (.link target)) :
    resolve look (links + 1) here (name :: parts) =
      resolve look links (target.startFrom here) (target.split.2 ++ parts) := by
  simp [resolve, walk, hname.isTrivial_eq, hname.2, h]

theorem resolve_link_zero {target : Path} (hname : Path.IsName name)
    (h : look (here ++ [name]) = some (.link target)) :
    resolve look 0 here (name :: parts) = .failed .tooManyLinks := by
  simp [resolve, walk, hname.isTrivial_eq, hname.2, h]

theorem resolve_nothing (hname : Path.IsName name) (h : look (here ++ [name]) = none) :
    resolve look links here (name :: parts) =
      if parts = [] then .free (here ++ [name]) else .failed .missing := by
  cases links <;> simp [resolve, walk, hname.isTrivial_eq, hname.2, h]

/-- What holds of all paths, if it holds with one more part in front whatever this is. -/
theorem resolve_induction (look : List String → Option Kind)
    {motive : Nat → List String → List String → Prop}
    (nil : ∀ links here, motive links here [])
    (trivial : ∀ links here part parts, Path.isTrivial part = true →
      motive links here parts → motive links here (part :: parts))
    (up : ∀ links here parts,
      motive links here.dropLast parts → motive links here (".." :: parts))
    (directory : ∀ links here name parts, Path.IsName name →
      look (here ++ [name]) = some .directory →
      motive links (here ++ [name]) parts → motive links here (name :: parts))
    (file : ∀ links here name parts bytes, Path.IsName name →
      look (here ++ [name]) = some (.file bytes) → motive links here (name :: parts))
    (link : ∀ links here name parts target, Path.IsName name →
      look (here ++ [name]) = some (.link target) →
      motive links (target.startFrom here) (target.split.2 ++ parts) →
        motive (links + 1) here (name :: parts))
    (linkZero : ∀ here name parts target, Path.IsName name →
      look (here ++ [name]) = some (.link target) → motive 0 here (name :: parts))
    (nothing : ∀ links here name parts, Path.IsName name →
      look (here ++ [name]) = none → motive links here (name :: parts))
    (links : Nat) (here parts : List String) : motive links here parts := by
  -- A link is followed to where fewer links may be followed, however many parts its target has.
  induction links using Nat.strongRecOn generalizing here parts with
  | ind links ihLinks =>
    induction parts generalizing here with
    | nil => exact nil links here
    | cons part parts ih =>
      cases htrivial : Path.isTrivial part with
      | true => exact trivial links here part parts htrivial (ih here)
      | false =>
        by_cases hup : part = ".."
        · exact hup ▸ up links here parts (ih here.dropLast)
        · have hname : Path.IsName part := ⟨htrivial, hup⟩
          match hlook : look (here ++ [part]), links with
          | some .directory, links => exact directory links here part parts hname hlook (ih _)
          | some (.file bytes), links => exact file links here part parts bytes hname hlook
          | some (.link target), 0 => exact linkZero here part parts target hname hlook
          | some (.link target), links + 1 =>
            exact link links here part parts target hname hlook (ihLinks links (by omega) _ _)
          | none, links => exact nothing links here part parts hname hlook

/-! ### Going on -/

/-- Behind parts that lead to a directory the rest is followed from there. -/
theorem exists_resolve_append (h : resolve look links here parts = .found names)
    (hfile : ∀ bytes, look names ≠ some (.file bytes)) :
    ∃ left, ∀ rest, resolve look links here (parts ++ rest) = resolve look left names rest := by
  induction links, here, parts using resolve_induction look with
  | nil links here =>
    rw [resolve_nil] at h
    cases h
    exact ⟨links, fun _ => rfl⟩
  | trivial links here part parts htrivial ih =>
    rw [resolve_trivial htrivial] at h
    simpa only [List.cons_append, resolve_trivial htrivial] using ih h
  | up links here parts ih =>
    rw [resolve_up] at h
    simpa only [List.cons_append, resolve_up] using ih h
  | directory links here name parts hname hlook ih =>
    rw [resolve_directory hname hlook] at h
    simpa only [List.cons_append, resolve_directory hname hlook] using ih h
  | file links here name parts bytes hname hlook =>
    rw [resolve_file hname hlook] at h
    split at h
    · cases h
      exact absurd hlook (hfile bytes)
    · cases h
  | link links here name parts target hname hlook ih =>
    rw [resolve_link hname hlook] at h
    simpa only [List.cons_append, resolve_link hname hlook, List.append_assoc] using ih h
  | linkZero here name parts target hname hlook =>
    rw [resolve_link_zero hname hlook] at h
    cases h
  | nothing links here name parts hname hlook =>
    rw [resolve_nothing hname hlook] at h
    split at h <;> cases h

/-- A slash at the end of a path to a directory can be left out. -/
theorem resolve_of_append_empty (h : resolve look links here (parts ++ [""]) = .found names) :
    resolve look links here parts = .found names := by
  have hempty : Path.isTrivial "" = true := by decide
  induction links, here, parts using resolve_induction look with
  | nil links here => simpa [resolve_trivial hempty] using h
  | trivial links here part parts htrivial ih =>
    simp only [List.cons_append, resolve_trivial htrivial] at h ⊢
    exact ih h
  | up links here parts ih =>
    simp only [List.cons_append, resolve_up] at h ⊢
    exact ih h
  | directory links here name parts hname hlook ih =>
    simp only [List.cons_append, resolve_directory hname hlook] at h ⊢
    exact ih h
  | file links here name parts bytes hname hlook =>
    -- The empty part stays where it is, but only on a directory.
    simp [resolve_file hname hlook] at h
  | link links here name parts target hname hlook ih =>
    simp only [List.cons_append, resolve_link hname hlook, ← List.append_assoc] at h ⊢
    exact ih h
  | linkZero here name parts target hname hlook =>
    simp [resolve_link_zero hname hlook] at h
  | nothing links here name parts hname hlook =>
    simp [resolve_nothing hname hlook] at h

theorem resolve_dropSlash (h : resolve look links here parts = .found names) :
    resolve look links here (Path.dropSlash parts) = .found names := by
  obtain heq | heq := Path.eq_dropSlash_or parts
  · rwa [← heq]
  · exact resolve_of_append_empty (heq ▸ h)

end Parts

variable {links : Nat} {here parts : List String}

/-- Names of directories are passed through as they are. -/
theorem resolve_directories (hdirs : files.kindAt? (here ++ dirs) = some .directory)
    (hnames : ∀ dir ∈ dirs, Path.IsName dir) (parts : List String) :
    resolve files.kindAt? links here (dirs ++ parts) =
      resolve files.kindAt? links (here ++ dirs) parts := by
  induction dirs generalizing here with
  | nil => rw [List.nil_append, List.append_nil]
  | cons dir dirs ih =>
    obtain ⟨hname, hnames⟩ := List.forall_mem_cons.mp hnames
    rw [List.append_cons] at hdirs
    have hdir : files.kindAt? (here ++ [dir]) = some .directory := by
      by_cases hnil : dirs = []
      · simpa [hnil] using hdirs
      · exact kindAt?_of_append hdirs hnil
    rw [List.cons_append, resolve_directory hname hdir, ih hdirs hnames, List.append_assoc,
      List.singleton_append]

/-- A path that leads to a free place leads into the directory that the place is in. -/
theorem exists_of_resolve_eq_free (hhere : files.kindAt? here = some .directory)
    (h : resolve files.kindAt? links here parts = .free names) :
    ∃ dirs name, names = dirs ++ [name] ∧ files.kindAt? dirs = some .directory ∧
      files.kindAt? names = none := by
  induction links, here, parts using resolve_induction files.kindAt? with
  | nil links here =>
    rw [resolve_nil] at h
    cases h
  | trivial links here part parts htrivial ih =>
    rw [resolve_trivial htrivial] at h
    exact ih hhere h
  | up links here parts ih =>
    rw [resolve_up] at h
    exact ih (kindAt?_dropLast hhere) h
  | directory links here name parts hname hlook ih =>
    rw [resolve_directory hname hlook] at h
    exact ih hlook h
  | file links here name parts bytes hname hlook =>
    rw [resolve_file hname hlook] at h
    split at h <;> cases h
  | link links here name parts target hname hlook ih =>
    rw [resolve_link hname hlook] at h
    exact ih (kindAt?_startFrom hhere target) h
  | linkZero here name parts target hname hlook =>
    rw [resolve_link_zero hname hlook] at h
    cases h
  | nothing links here name parts hname hlook =>
    rw [resolve_nothing hname hlook] at h
    split at h
    · cases h
      exact ⟨here, name, rfl, hhere, hlook⟩
    · cases h

/-! ### More files -/

/-- All that is there in `files` is there in `files'` too. -/
def Extends (files files' : Entry) : Prop :=
  ∀ names kind, files.kindAt? names = some kind → files'.kindAt? names = some kind

theorem Extends.refl (files : Entry) : files.Extends files := fun _ _ h => h

theorem Extends.trans {files'' : Entry} (h : files.Extends files') (h' : files'.Extends files'') :
    files.Extends files'' :=
  fun names kind hkind => h' names kind (h names kind hkind)

theorem Extends.ne_none (h : files.Extends files') (hnames : files.kindAt? names ≠ none) :
    files'.kindAt? names ≠ none := by
  obtain ⟨kind, hkind⟩ := Option.ne_none_iff_exists'.mp hnames
  rw [h names kind hkind]
  exact Option.some_ne_none kind

/-- Among more files a path leads where it led, and to the file that is now in its free place. -/
theorem resolve_of_extends (h : files.Extends files')
    (hnames : resolve files.kindAt? links here parts = .found names ∨
      resolve files.kindAt? links here parts = .free names ∧
        ∃ bytes, files'.kindAt? names = some (.file bytes)) :
    resolve files'.kindAt? links here parts = .found names := by
  induction links, here, parts using resolve_induction files.kindAt? with
  | nil links here => simpa using hnames
  | trivial links here part parts htrivial ih =>
    rw [resolve_trivial htrivial] at hnames ⊢
    exact ih hnames
  | up links here parts ih =>
    rw [resolve_up] at hnames ⊢
    exact ih hnames
  | directory links here name parts hname hlook ih =>
    rw [resolve_directory hname hlook] at hnames
    rw [resolve_directory hname (h _ _ hlook)]
    exact ih hnames
  | file links here name parts bytes hname hlook =>
    rw [resolve_file hname hlook] at hnames
    rw [resolve_file hname (h _ _ hlook)]
    split at hnames <;> simp_all
  | link links here name parts target hname hlook ih =>
    rw [resolve_link hname hlook] at hnames
    rw [resolve_link hname (h _ _ hlook)]
    exact ih hnames
  | linkZero here name parts target hname hlook =>
    simp [resolve_link_zero hname hlook] at hnames
  | nothing links here name parts hname hlook =>
    rw [resolve_nothing hname hlook] at hnames
    split at hnames
    next hnil =>
      obtain ⟨⟨⟩⟩ | ⟨⟨⟩, bytes, hfile⟩ := hnames
      rw [resolve_file hname hfile, if_pos hnil]
    next => simp at hnames

/-! ### Absolute paths -/

variable {p : Path} {found : Entry}

theorem destination_eq (h : p.base = .root) :
    files.destination p = resolve files.kindAt? linkBound [] p.split.2 := by
  have hsplit : p.split = (.root, p.split.2) := Prod.ext h rfl
  rw [destination, hsplit]

/-- Only absolute paths lead anywhere. -/
theorem base_eq_root_of_destination {d : Destination} (h : files.destination p = d)
    (hd : ∀ cause, d ≠ .failed cause) : p.base = .root := by
  unfold destination at h
  split at h
  next hsplit => exact Path.base_eq_root hsplit
  next => exact absurd h.symm (hd .missing)

/-- What is found at a path is what the path leads to. -/
theorem find_eq_ok_iff :
    files.find p = .ok found ↔
      ∃ names, files.destination p = .found names ∧ files.at? names = some found := by
  rw [find]
  cases files.destination p with
  | free | failed => simp
  | found names => cases h : files.at? names <;> simp [h]

theorem base_eq_root_of_find (h : files.find p = .ok found) : p.base = .root := by
  obtain ⟨names, hnames, -⟩ := find_eq_ok_iff.mp h
  exact base_eq_root_of_destination hnames (by simp)

theorem holds_iff_exists_find : files.holds p = true ↔ ∃ found, files.find p = .ok found := by
  rw [holds]
  cases files.find p <;> simp [Except.isOk, Except.toBool]

theorem holds_iff :
    files.holds p = true ↔
      ∃ names, files.destination p = .found names ∧ files.kindAt? names ≠ none := by
  simp only [holds_iff_exists_find, find_eq_ok_iff, kindAt?, ne_eq, Option.map_eq_none_iff]
  simp only [← ne_eq, Option.ne_none_iff_exists']
  exact ⟨fun ⟨found, names, h, hfound⟩ => ⟨names, h, found, hfound⟩,
    fun ⟨names, h, found, hfound⟩ => ⟨found, names, h, hfound⟩⟩

theorem destination_of_extends (h : files.Extends files')
    (hnames : files.destination p = .found names ∨
      files.destination p = .free names ∧ ∃ bytes, files'.kindAt? names = some (.file bytes)) :
    files'.destination p = .found names := by
  have hbase : p.base = .root := by
    obtain hfound | ⟨hfree, -⟩ := hnames
    · exact base_eq_root_of_destination hfound (by simp)
    · exact base_eq_root_of_destination hfree (by simp)
  rw [destination_eq hbase] at hnames ⊢
  exact resolve_of_extends h hnames

/-- Where something is found, something is found among more files too. -/
theorem holds_of_extends (h : files.Extends files') (hp : files.holds p = true) :
    files'.holds p = true := by
  obtain ⟨names, hdestination, hnames⟩ := holds_iff.mp hp
  exact holds_iff.mpr ⟨names, destination_of_extends h (.inl hdestination), h.ne_none hnames⟩

end Entry

end MessageKeys
