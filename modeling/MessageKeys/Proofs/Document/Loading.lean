import MessageKeys.Document.Catalog
import MessageKeys.Proofs.Document.MessageFile
import MessageKeys.Proofs.Document.Namespaces

/-!
# What a catalog is loaded from

The files below a messages root that are to be loaded are those whose extension shows a format and
whose path no pattern describes. The catalog of the root has each of them in one place: a document
if it can be loaded, and a warning if not. Documents and warnings stand in the order of the paths,
and what a file is loaded as does not depend on the others, so that a change to one file leaves the
rest of the catalog as it was.

## Main definitions

* `MessageKeys.Catalog.IsScan` — the catalog has what is in a directory.
* `MessageKeys.Entry.AgreeOff` — two directories differ in one file at most.

## Main results

* `MessageKeys.Catalog.mem_filesToLoad_iff` — the files that are to be loaded.
* `MessageKeys.Catalog.isScan_of_load` — the catalog of a messages root has what is in it.
* `MessageKeys.Catalog.IsScan.without_eq` — a change to one file leaves the rest as it was.
* `MessageKeys.Catalog.load_isScan` — a catalog is loaded, and nothing is lost or mixed up.
-/

namespace MessageKeys

/-! ### Directories and their catalogs -/

namespace Catalog

variable {files dir : Entry} {root file : Path} {ignores : List Glob} {catalog : Catalog}

/-- The paths of all files that the catalog has something of. -/
def paths (catalog : Catalog) : List Path :=
  catalog.documents.map Document.path ++ catalog.warnings.map LoadWarning.file

/-- The catalog without what it has of the file at `path`. -/
def without (catalog : Catalog) (path : Path) : Catalog where
  documents := catalog.documents.filter fun d => d.path ≠ path
  warnings := catalog.warnings.filter fun w => w.file ≠ path

@[simp] theorem mem_documents_without {path : Path} {d : Document} :
    d ∈ (catalog.without path).documents ↔ d ∈ catalog.documents ∧ d.path ≠ path := by
  simp [without]

@[simp] theorem mem_warnings_without {path : Path} {w : LoadWarning} :
    w ∈ (catalog.without path).warnings ↔ w ∈ catalog.warnings ∧ w.file ≠ path := by
  simp [without]

/-- The catalog has what is in the directory `dir`, which is found at the messages root. -/
structure IsScan (catalog : Catalog) (files : Entry) (root : Path) (dir : Entry)
    (ignores : List Glob) : Prop where
  /-- No file is in two places of the catalog. -/
  nodup_paths : catalog.paths.Nodup
  /-- The files in the catalog are those that are to be loaded. -/
  mem_paths_iff : ∀ file,
    file ∈ catalog.paths ↔ ∃ f : MessageFile, f.IsIn dir ignores ∧ file = f.path root
  /-- The documents are what these files are loaded as. -/
  mem_documents_iff : ∀ d, d ∈ catalog.documents ↔
    ∃ f : MessageFile, f.IsIn dir ignores ∧ Document.load files root (f.path root) = .ok d
  /-- There are warnings for those that cannot be loaded. -/
  mem_warnings_iff : ∀ w, w ∈ catalog.warnings ↔
    ∃ f : MessageFile, f.IsIn dir ignores ∧ w.file = f.path root ∧
      Document.load files root (f.path root) = .error w.error
  /-- What a file is loaded as depends on its place and its bytes alone. -/
  load_eq : ∀ f : MessageFile, f.IsIn dir ignores →
    Document.load files root (f.path root) = f.load root
  /-- The documents are in the order in which their paths compare name by name. -/
  pairwise_documents : catalog.documents.Pairwise fun d d' => d.path.names < d'.path.names
  /-- So are the warnings. -/
  pairwise_warnings : catalog.warnings.Pairwise fun w w' => w.file.names < w'.file.names

/-! ### The files that are to be loaded -/

theorem isIgnored_below {names : List String} (hbase : root.base = .root) (hne : names ≠ [])
    (hnames : ∀ n ∈ names, Path.IsName n) :
    isIgnored ignores root (root.below names) =
      ignores.any fun g => g.describes (String.intercalate "/" names) := by
  simp only [isIgnored, Path.relativeTo?_below hbase hne hnames, Option.getD_some, Path.text]

theorem mem_filesToLoad_iff {entries : List (String × Entry)}
    (hroot : files.find root = .ok (.directory entries))
    (hproper : (Entry.directory entries).IsProper) :
    file ∈ filesToLoad files root ignores ↔
      ∃ f : MessageFile, f.IsIn (.directory entries) ignores ∧ file = f.path root := by
  have hbase := Entry.base_eq_root_of_find hroot
  simp only [filesToLoad, hroot, List.mem_filter, Entry.mem_filesBelow_iff hproper,
    Bool.and_eq_true, Bool.not_eq_true']
  constructor
  · rintro ⟨⟨names, bytes, hfound, rfl⟩, hformat, hignored⟩
    have hnames := hproper.isName_of_at? hfound
    obtain rfl | ⟨dirs, name, rfl⟩ := List.eq_nil_or_concat' names
    · cases hfound
    rw [Path.format?_below hbase hnames, Option.isSome_bind, Option.any_eq_true] at hformat
    obtain ⟨extension, hextension, hformat⟩ := hformat
    rw [isIgnored_below hbase (by simp) hnames, List.any_eq_false] at hignored
    obtain ⟨hname, hstem, -⟩ := Path.splitName_eq_iff.mp (Prod.ext rfl hextension)
    rw [hname] at hfound hignored ⊢
    refine ⟨⟨dirs, _, extension, bytes⟩, ⟨hfound, hstem, ?_, ?_⟩, rfl⟩
    · exact Format.isSome_ofExtension?_iff.mp hformat
    · exact fun g hg => Bool.eq_false_iff.mpr (hignored g hg)
  · rintro ⟨f, hf, rfl⟩
    have hnames := hproper.isName_of_at? hf.at?_eq
    refine ⟨⟨f.names, f.bytes, hf.at?_eq, rfl⟩, ?_, ?_⟩
    · rw [hf.format?_path hbase hproper]
      exact hf.isSome_format
    · rw [MessageFile.path, isIgnored_below hbase f.names_ne_nil hnames, List.any_eq_false]
      simpa using hf.not_describes

theorem exists_mem_filesToLoad_iff {entries : List (String × Entry)} {P : Path → Prop}
    (hroot : files.find root = .ok (.directory entries))
    (hproper : (Entry.directory entries).IsProper) :
    (∃ file ∈ filesToLoad files root ignores, P file) ↔
      ∃ f : MessageFile, f.IsIn (.directory entries) ignores ∧ P (f.path root) := by
  constructor
  · rintro ⟨file, hfile, hP⟩
    obtain ⟨f, hf, rfl⟩ := (mem_filesToLoad_iff hroot hproper).mp hfile
    exact ⟨f, hf, hP⟩
  · rintro ⟨f, hf, hP⟩
    exact ⟨_, (mem_filesToLoad_iff hroot hproper).mpr ⟨f, hf, rfl⟩, hP⟩

/-! ### Documents and warnings -/

theorem path_of_load {d : Document} (h : Document.load files root file = .ok d) :
    d.path = file := by
  unfold Document.load at h
  split at h
  · split at h
    · simp only [bind, Except.bind] at h
      split at h <;> cases h
      rfl
    · cases h
  · cases h

theorem loadFile_eq_inl_iff {d : Document} :
    loadFile files root file = .inl d ↔ Document.load files root file = .ok d := by
  unfold loadFile
  split <;> simp_all

theorem loadFile_eq_inr_iff {w : LoadWarning} :
    loadFile files root file = .inr w ↔
      w.file = file ∧ Document.load files root file = .error w.error := by
  obtain ⟨wfile, error⟩ := w
  unfold loadFile
  split <;> rename_i hload
  · simp [hload]
  · simp [hload, eq_comm]

/-- The catalog of the files at some paths. -/
def ofPaths (files : Entry) (root : Path) (paths : List Path) : Catalog where
  documents := (paths.map (loadFile files root)).filterMap Sum.getLeft?
  warnings := (paths.map (loadFile files root)).filterMap Sum.getRight?

theorem load_eq_ofPaths {entries : List (String × Entry)}
    (hroot : files.find root = .ok (.directory entries)) :
    Catalog.load files root ignores =
      .ok (ofPaths files root (filesToLoad files root ignores)) := by
  rw [Catalog.load, hroot]
  rfl

theorem mem_documents_ofPaths_iff {paths : List Path} {d : Document} :
    d ∈ (ofPaths files root paths).documents ↔
      ∃ file ∈ paths, Document.load files root file = .ok d := by
  simp [ofPaths, loadFile_eq_inl_iff]

theorem mem_warnings_ofPaths_iff {paths : List Path} {w : LoadWarning} :
    w ∈ (ofPaths files root paths).warnings ↔
      ∃ file ∈ paths, w.file = file ∧ Document.load files root file = .error w.error := by
  simp [ofPaths, loadFile_eq_inr_iff]

/-- Every path comes back, as that of a document or of a warning. -/
theorem paths_ofPaths_perm (files : Entry) (root : Path) (paths : List Path) :
    (ofPaths files root paths).paths.Perm paths := by
  induction paths with
  | nil => exact .nil
  | cons file rest ih =>
    simp only [ofPaths, Catalog.paths, List.map_cons] at ih ⊢
    cases hload : loadFile files root file with
    | inl d =>
      have hd : d.path = file := path_of_load (loadFile_eq_inl_iff.mp hload)
      simpa [List.filterMap_cons, hd] using ih
    | inr w =>
      have hw : w.file = file := (loadFile_eq_inr_iff.mp hload).1
      simp only [List.filterMap_cons, Sum.getLeft?_inr, Sum.getRight?_inr, List.map_cons, hw]
      exact List.perm_middle.trans (ih.cons file)

theorem pairwise_documents_ofPaths {r : Path → Path → Prop} {paths : List Path}
    (h : paths.Pairwise r) :
    (ofPaths files root paths).documents.Pairwise fun d d' => r d.path d'.path := by
  simp only [ofPaths, List.filterMap_map]
  refine h.filterMap _ fun file file' hr d hd d' hd' => ?_
  have hfile := path_of_load (loadFile_eq_inl_iff.mp (Sum.getLeft?_eq_some_iff.mp hd))
  have hfile' := path_of_load (loadFile_eq_inl_iff.mp (Sum.getLeft?_eq_some_iff.mp hd'))
  rwa [hfile, hfile']

theorem pairwise_warnings_ofPaths {r : Path → Path → Prop} {paths : List Path}
    (h : paths.Pairwise r) :
    (ofPaths files root paths).warnings.Pairwise fun w w' => r w.file w'.file := by
  simp only [ofPaths, List.filterMap_map]
  refine h.filterMap _ fun file file' hr w hw w' hw' => ?_
  have hfile := (loadFile_eq_inr_iff.mp (Sum.getRight?_eq_some_iff.mp hw)).1
  have hfile' := (loadFile_eq_inr_iff.mp (Sum.getRight?_eq_some_iff.mp hw')).1
  rwa [hfile, hfile']

theorem pairwise_filesToLoad {entries : List (String × Entry)}
    (hroot : files.find root = .ok (.directory entries))
    (hproper : (Entry.directory entries).IsProper) :
    (filesToLoad files root ignores).Pairwise fun x y => x.names < y.names := by
  simp only [filesToLoad, hroot]
  exact (Entry.pairwise_filesBelow (Entry.base_eq_root_of_find hroot) hproper).filter _

/-- The catalog of a messages root has what is in the directory there. -/
theorem isScan_of_load {entries : List (String × Entry)}
    (hroot : files.find root = .ok (.directory entries))
    (hproper : (Entry.directory entries).IsProper)
    (hload : Catalog.load files root ignores = .ok catalog) :
    catalog.IsScan files root (.directory entries) ignores := by
  rw [load_eq_ofPaths hroot] at hload
  obtain rfl := Except.ok.inj hload
  have hsorted : (filesToLoad files root ignores).Pairwise fun x y => x.names < y.names :=
    pairwise_filesToLoad hroot hproper
  have hperm := paths_ofPaths_perm files root (filesToLoad files root ignores)
  have hnodup : (filesToLoad files root ignores).Nodup :=
    hsorted.imp fun hlt heq => absurd (heq ▸ hlt) (lt_irrefl _)
  refine ⟨hperm.nodup_iff.mpr hnodup, fun file => ?_, fun d => ?_, fun w => ?_,
    fun f hf => hf.load_eq hroot hproper, pairwise_documents_ofPaths hsorted,
    pairwise_warnings_ofPaths hsorted⟩
  · rw [hperm.mem_iff, mem_filesToLoad_iff hroot hproper]
  · rw [mem_documents_ofPaths_iff, exists_mem_filesToLoad_iff hroot hproper]
  · rw [mem_warnings_ofPaths_iff, exists_mem_filesToLoad_iff hroot hproper]

end Catalog

/-! ### A change to one file -/

namespace Entry

/-- The two entries have the same files below them, apart from one that some names lead to. -/
def AgreeOff (dir dir' : Entry) (changed : List String) : Prop :=
  ∀ names, names ≠ changed → ∀ bytes,
    dir.at? names = some (.file bytes) ↔ dir'.at? names = some (.file bytes)

theorem AgreeOff.symm {dir dir' : Entry} {changed : List String} (h : dir.AgreeOff dir' changed) :
    dir'.AgreeOff dir changed :=
  fun names hne bytes => (h names hne bytes).symm

theorem agreeOff_file (bytes bytes' : ByteArray) : (file bytes).AgreeOff (file bytes') [] := by
  rintro (_ | ⟨name, names⟩) hne _
  · exact absurd rfl hne
  · simp

/-- A change below the first entry of a directory. -/
theorem AgreeOff.head {e e' : Entry} {name : String} {entries : List (String × Entry)}
    {changed : List String} (h : e.AgreeOff e' changed) :
    (directory ((name, e) :: entries)).AgreeOff (directory ((name, e') :: entries))
      (name :: changed) := by
  rintro (_ | ⟨other, names⟩) hne bytes
  · simp
  · by_cases hother : other = name
    · subst hother
      simpa using h names (fun heq => hne (by rw [heq])) bytes
    · simp [List.lookup_cons, beq_eq_false_iff_ne.mpr hother]

/-- A change below the entries behind the first one. -/
theorem AgreeOff.tail {e : Entry} {name : String} {entries entries' : List (String × Entry)}
    {changed : List String} (h : (directory entries).AgreeOff (directory entries') changed) :
    (directory ((name, e) :: entries)).AgreeOff (directory ((name, e) :: entries')) changed := by
  rintro (_ | ⟨other, names⟩) hne bytes
  · simp
  · by_cases hother : other = name
    · simp [hother]
    · simpa [List.lookup_cons, beq_eq_false_iff_ne.mpr hother] using h (other :: names) hne bytes

end Entry

theorem MessageFile.IsIn.of_agreeOff {f : MessageFile} {dir dir' : Entry} {ignores : List Glob}
    {changed : List String} (h : f.IsIn dir ignores) (hagree : dir.AgreeOff dir' changed)
    (hne : f.names ≠ changed) : f.IsIn dir' ignores where
  at?_eq := (hagree f.names hne f.bytes).mp h.at?_eq
  stem_ne := h.stem_ne
  extension_mem := h.extension_mem
  not_describes := h.not_describes

namespace Catalog

variable {files files' dir dir' : Entry} {root : Path} {ignores : List Glob}
  {catalog catalog' : Catalog} {changed : List String}

theorem IsScan.mem_documents_of_agreeOff (h : catalog.IsScan files root dir ignores)
    (h' : catalog'.IsScan files' root dir' ignores) (hagree : dir.AgreeOff dir' changed)
    {d : Document} (hd : d ∈ catalog.documents) (hne : d.path ≠ root.below changed) :
    d ∈ catalog'.documents := by
  obtain ⟨f, hf, hload⟩ := (h.mem_documents_iff d).mp hd
  have hnames : f.names ≠ changed := fun heq => hne (by rw [path_of_load hload, ← heq]; rfl)
  have hf' := hf.of_agreeOff hagree hnames
  rw [h.load_eq f hf, ← h'.load_eq f hf'] at hload
  exact (h'.mem_documents_iff d).mpr ⟨f, hf', hload⟩

theorem IsScan.mem_warnings_of_agreeOff (h : catalog.IsScan files root dir ignores)
    (h' : catalog'.IsScan files' root dir' ignores) (hagree : dir.AgreeOff dir' changed)
    {w : LoadWarning} (hw : w ∈ catalog.warnings) (hne : w.file ≠ root.below changed) :
    w ∈ catalog'.warnings := by
  obtain ⟨f, hf, hfile, hload⟩ := (h.mem_warnings_iff w).mp hw
  have hnames : f.names ≠ changed := fun heq => hne (by rw [hfile, ← heq]; rfl)
  have hf' := hf.of_agreeOff hagree hnames
  rw [h.load_eq f hf, ← h'.load_eq f hf'] at hload
  exact (h'.mem_warnings_iff w).mpr ⟨f, hf', hfile, hload⟩

/-- When directories differ in one file at most, so do their catalogs, and in the order of the
rest nothing is different. -/
theorem IsScan.without_eq (h : catalog.IsScan files root dir ignores)
    (h' : catalog'.IsScan files' root dir' ignores) (hagree : dir.AgreeOff dir' changed) :
    catalog.without (root.below changed) = catalog'.without (root.below changed) := by
  -- Lists in strict order are equal if they have the same members.
  have hdocuments : (catalog.without (root.below changed)).documents =
      (catalog'.without (root.below changed)).documents := by
    refine eq_of_pairwise_lt (h.pairwise_documents.filter _) (h'.pairwise_documents.filter _)
      fun d => ?_
    rw [mem_documents_without, mem_documents_without]
    exact ⟨fun ⟨hd, hne⟩ => ⟨h.mem_documents_of_agreeOff h' hagree hd hne, hne⟩,
      fun ⟨hd, hne⟩ => ⟨h'.mem_documents_of_agreeOff h hagree.symm hd hne, hne⟩⟩
  have hwarnings : (catalog.without (root.below changed)).warnings =
      (catalog'.without (root.below changed)).warnings := by
    refine eq_of_pairwise_lt (h.pairwise_warnings.filter _) (h'.pairwise_warnings.filter _)
      fun w => ?_
    rw [mem_warnings_without, mem_warnings_without]
    exact ⟨fun ⟨hw, hne⟩ => ⟨h.mem_warnings_of_agreeOff h' hagree hw hne, hne⟩,
      fun ⟨hw, hne⟩ => ⟨h'.mem_warnings_of_agreeOff h hagree.symm hw hne, hne⟩⟩
  exact congrArg₂ Catalog.mk hdocuments hwarnings

/-- **Loading a catalog.** A catalog is loaded from every directory that is found at the messages
root. It has each file that is to be loaded in one place and no other file, in the order of their
paths, and what becomes of a file does not depend on the others: a change to one file leaves the
rest of the catalog as it was. The documents of a namespace keep their order, and the namespaces, in
strict order and none of them empty, share out the documents among them. -/
theorem load_isScan {entries : List (String × Entry)}
    (hroot : files.find root = .ok (.directory entries))
    (hproper : (Entry.directory entries).IsProper) (ignores : List Glob) :
    ∃ catalog, Catalog.load files root ignores = .ok catalog ∧
      catalog.IsScan files root (.directory entries) ignores ∧
      (∀ files' entries' catalog' changed,
        files'.find root = .ok (.directory entries') → (Entry.directory entries').IsProper →
        (Entry.directory entries).AgreeOff (.directory entries') changed →
        Catalog.load files' root ignores = .ok catalog' →
        catalog.without (root.below changed) = catalog'.without (root.below changed)) ∧
      (∀ ns, (catalog.candidates ns).Sublist catalog.documents ∧
        ∀ d, d ∈ catalog.candidates ns ↔ d ∈ catalog.documents ∧ d.ns = ns) ∧
      catalog.namespaces.Pairwise (· < ·) ∧
      (∀ ns, ns ∈ catalog.namespaces ↔ catalog.candidates ns ≠ []) ∧
      (catalog.namespaces.flatMap catalog.candidates).Perm catalog.documents := by
  let catalog := ofPaths files root (filesToLoad files root ignores)
  have hload : Catalog.load files root ignores = .ok catalog := load_eq_ofPaths hroot
  have hscan : catalog.IsScan files root (.directory entries) ignores :=
    isScan_of_load hroot hproper hload
  refine ⟨catalog, hload, hscan, ?_, fun ns => ?_, catalog.pairwise_namespaces,
    fun ns => catalog.mem_namespaces_iff, catalog.flatMap_candidates_perm⟩
  · intro files' entries' catalog' changed hroot' hproper' hagree hload'
    exact hscan.without_eq (isScan_of_load hroot' hproper' hload') hagree
  · exact ⟨catalog.candidates_sublist ns, fun d => catalog.mem_candidates_iff⟩

/-- Of two files of one namespace, the English one is loaded though it is empty, and the German one
is not, for its bytes are no text. When the German one is mended, nothing changes for the other. -/
theorem load_isScan_two_locales :
    let dir (german : ByteArray) : Entry := .directory
      [("en", .directory [("common.yaml", .file ⟨#[]⟩)]),
        ("de", .directory [("common.YML", .file german)])]
    let files (german : ByteArray) : Entry := .directory [("m", dir german)]
    let root : Path := ⟨["", "m"]⟩
    let document : Document :=
      ⟨⟨["", "m", "en", "common.yaml"]⟩, "common", some "en", .yaml (.mapping [])⟩
    let file : Path := ⟨["", "m", "de", "common.YML"]⟩
    (∀ german, (files german).find root = .ok (dir german) ∧ (dir german).IsProper) ∧
      ∃ catalog, Catalog.load (files ⟨#[255]⟩) root [] = .ok catalog ∧
        document ∈ catalog.documents ∧
        ⟨file, .unreadable file .notText⟩ ∈ catalog.warnings ∧ "common" ∈ catalog.namespaces ∧
        ∃ mended, Catalog.load (files ⟨#[]⟩) root [] = .ok mended ∧
          catalog.without file = mended.without file := by
  intro dir files root document file
  have hroot (german : ByteArray) : (files german).find root = .ok (dir german) := rfl
  have hproper (german : ByteArray) : (dir german).IsProper := by
    have hen : (Entry.directory [("common.yaml", .file ⟨#[]⟩)]).IsProper :=
      .directory (by decide) (by decide) (List.forall_mem_singleton.mpr (.file _))
    have hde : (Entry.directory [("common.YML", .file german)]).IsProper :=
      .directory (by simp) (by simp; decide) (List.forall_mem_singleton.mpr (.file _))
    exact .directory (by simp) (by simp; decide)
      (List.forall_mem_cons.mpr ⟨hen, List.forall_mem_singleton.mpr hde⟩)
  have hagree : (dir ⟨#[255]⟩).AgreeOff (dir ⟨#[]⟩) ["de", "common.YML"] :=
    (Entry.agreeOff_file _ _).head.head.tail
  obtain ⟨catalog, hload, hscan, hchange, hcandidates, -, hnamespaces, -⟩ :=
    load_isScan (hroot ⟨#[255]⟩) (hproper _) []
  obtain ⟨mended, hmended, -⟩ := load_isScan (hroot ⟨#[]⟩) (hproper _) []
  have henglish : (⟨["en"], "common", "yaml", ⟨#[]⟩⟩ : MessageFile).IsIn (dir ⟨#[255]⟩) [] :=
    ⟨rfl, by decide, by decide, by simp⟩
  have hgerman : (⟨["de"], "common", "YML", ⟨#[255]⟩⟩ : MessageFile).IsIn (dir ⟨#[255]⟩) [] :=
    ⟨rfl, by decide, by decide, by simp⟩
  have hdocument : document ∈ catalog.documents := by
    refine (hscan.mem_documents_iff document).mpr ⟨_, henglish, ?_⟩
    rw [hscan.load_eq _ henglish]
    rfl
  have hwarning : ⟨file, .unreadable file .notText⟩ ∈ catalog.warnings := by
    refine (hscan.mem_warnings_iff _).mpr ⟨_, hgerman, rfl, ?_⟩
    rw [hscan.load_eq _ hgerman]
    rfl
  have hnamespace : "common" ∈ catalog.namespaces := by
    rw [hnamespaces]
    exact List.ne_nil_of_mem (((hcandidates "common").2 document).mpr ⟨hdocument, rfl⟩)
  exact ⟨fun german => ⟨hroot german, hproper german⟩, catalog, hload, hdocument, hwarning,
    hnamespace, mended, hmended, hchange _ _ _ _ (hroot _) (hproper _) hagree hmended⟩

end Catalog

end MessageKeys
