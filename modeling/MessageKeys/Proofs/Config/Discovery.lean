import Mathlib
import MessageKeys.Command.Run
import MessageKeys.Proofs.Files.Above

/-!
# Where configurations are found

The search for a configuration goes up from a directory, one directory in each round, and ends at
the first configuration file, at the top of a repository, or at the root. What is found is the
nearest configuration file at or above the directory, if no repository ends in between; a repository
may end in the directory of the file itself, for the file is looked for first. A file that is found
holds, or the configuration cannot be loaded: it is never passed over for another one or for the
defaults.
Since the messages root is seen from the directory of the file, a run from any directory that finds
the file is the same.

## Main definitions

* `MessageKeys.Config.IsNearest` — a directory has the configuration file for another.
* `MessageKeys.Config.IsUsable` — a configuration that can be used.

## Main results

* `MessageKeys.Config.file?_eq` — one round of the search.
* `MessageKeys.Config.file?_eq_some_iff` — the file that is found.
* `MessageKeys.Config.load_of_isNearest` — when a file that is found is loaded.
* `MessageKeys.Situation.run_resolve_eq_of_file?` — runs that find the same file.
* `MessageKeys.Config.load_discovery` — the search, the configuration that holds, and the runs.
-/

namespace MessageKeys

namespace Config

variable {files : Entry} {start a directory : Path} {directories : List Path} {file : Path}

/-! ### The search -/

/-- `a` has the configuration file for the directory `start`: it is `start` or above it, has such a
file, and neither a configuration file nor the top of a repository is in a directory between. -/
structure IsNearest (files : Entry) (start a : Path) : Prop where
  mem : a ∈ start :: start.above
  holds : files.holds (a.child fileName) = true
  nearest : ∀ d ∈ start :: start.above, a.names.length < d.names.length →
    files.holds (d.child fileName) = false ∧ files.holds (d.child repositoryName) = false

theorem fileIn?_cons (files : Entry) (directory : Path) (directories : List Path) :
    fileIn? files (directory :: directories) =
      if files.holds (directory.child fileName) then some (directory.child fileName)
      else if files.holds (directory.child repositoryName) then none
      else fileIn? files directories := rfl

/-- One round of the search: it ends in this directory, or goes on in the next one above. -/
theorem file?_eq (files : Entry) (h : start.base = .root) :
    file? files start =
      if files.holds (start.child fileName) then some (start.child fileName)
      else if files.holds (start.child repositoryName) then none
      else start.parent?.bind (file? files) := by
  rw [file?, fileIn?_cons, Path.above_eq h]
  cases start.parent? <;> rfl

/-- Of some directories the first one with a configuration file is found, unless one before it is
the top of a repository. -/
theorem fileIn?_eq_some_iff :
    fileIn? files directories = some file ↔
      ∃ before a after, directories = before ++ a :: after ∧
        files.holds (a.child fileName) = true ∧ file = a.child fileName ∧
        ∀ d ∈ before, files.holds (d.child fileName) = false ∧
          files.holds (d.child repositoryName) = false := by
  induction directories with
  | nil => simp [fileIn?]
  | cons d ds ih =>
    rw [fileIn?_cons]
    constructor
    · split_ifs with hfile hrepository
      · rintro ⟨⟩
        exact ⟨[], d, ds, rfl, hfile, rfl, by simp⟩
      · rintro ⟨⟩
      · intro h
        obtain ⟨before, a, after, rfl, ha, rfl, hbefore⟩ := ih.mp h
        refine ⟨d :: before, a, after, rfl, ha, rfl, List.forall_mem_cons.mpr ⟨?_, hbefore⟩⟩
        exact ⟨Bool.eq_false_iff.mpr hfile, Bool.eq_false_iff.mpr hrepository⟩
    · rintro ⟨before, a, after, heq, ha, rfl, hbefore⟩
      cases before with
      | nil =>
        obtain ⟨rfl, rfl⟩ := List.cons.inj heq
        rw [if_pos ha]
      | cons d' before =>
        obtain ⟨rfl, rfl⟩ := List.cons.inj heq
        obtain ⟨⟨hfile, hrepository⟩, hrest⟩ := List.forall_mem_cons.mp hbefore
        rw [hfile, hrepository, if_neg Bool.false_ne_true, if_neg Bool.false_ne_true]
        exact ih.mpr ⟨before, a, after, rfl, ha, rfl, hrest⟩

/-- The configuration file for a directory is that of the nearest directory that has one, if no
repository ends before. -/
theorem file?_eq_some_iff (h : start.base = .root) :
    file? files start = some file ↔
      ∃ a, IsNearest files start a ∧ file = a.child fileName := by
  rw [file?, fileIn?_eq_some_iff]
  have horder := Path.pairwise_above h
  constructor
  · rintro ⟨before, a, after, heq, ha, rfl, hbefore⟩
    rw [heq, List.pairwise_append, List.pairwise_cons] at horder
    refine ⟨a, ⟨by simp [heq], ha, fun d hd hlt => ?_⟩, rfl⟩
    rw [heq, List.mem_append, List.mem_cons] at hd
    rcases hd with hd | rfl | hd
    · exact hbefore d hd
    · exact absurd hlt (Nat.lt_irrefl _)
    · exact absurd hlt (Nat.lt_asymm (horder.2.1.1 d hd))
  · rintro ⟨a, ⟨hmem, ha, hnearest⟩, rfl⟩
    obtain ⟨before, after, heq⟩ := List.append_of_mem hmem
    rw [heq] at horder hnearest
    refine ⟨before, a, after, heq, ha, rfl, fun d hd => hnearest d (by simp [hd]) ?_⟩
    exact (List.pairwise_append.mp horder).2.2 d hd a List.mem_cons_self

/-! ### Configurations that can be used -/

/-- A configuration that can be used: keys can be cut at its separators, plural forms can be told
from other names, and the files that are passed over are known. -/
structure IsUsable (config : Config) : Prop where
  separators_ne : config.nsSeparator ≠ config.keySeparator
  pluralSeparator_ne : config.pluralSeparator ≠ ""
  ignorePatterns : ∃ patterns, config.ignorePatterns = .ok patterns

theorem validate_eq_ok_iff {config : Config} : config.validate = .ok () ↔ config.IsUsable := by
  have hempty : config.pluralSeparator.isEmpty = true ↔ config.pluralSeparator = "" :=
    String.isEmpty_iff
  unfold validate
  cases hpatterns : config.ignorePatterns with
  | error flaw =>
    simp only [reduceCtorEq, false_iff]
    rintro ⟨-, -, patterns, hok⟩
    cases hpatterns.symm.trans hok
  | ok patterns =>
    simp only
    split_ifs with hseparators hplural
    · simp only [false_iff]
      exact fun h => h.separators_ne hseparators
    · simp only [false_iff]
      exact fun h => h.pluralSeparator_ne (hempty.mp hplural)
    · simp only [true_iff]
      exact ⟨hseparators, mt hempty.mpr hplural, patterns, hpatterns⟩

/-- A file has a configuration exactly if its text can be read, writes one, and that can be used. -/
theorem readFile_eq_ok_iff {config : Config} :
    readFile files file = .ok config ↔
      ∃ text, files.readText file = .ok text ∧ ofText? text = some config ∧ config.IsUsable := by
  unfold readFile
  cases files.readText file with
  | error cause => simp
  | ok text =>
    cases hconfig : ofText? text with
    | none => simp [hconfig]
    | some found =>
      cases hvalid : found.validate with
      | error flaw =>
        have hflawed : ¬ found.IsUsable := fun h => by
          cases hvalid.symm.trans (validate_eq_ok_iff.mpr h)
        simp only [hconfig, hvalid, reduceCtorEq, false_iff]
        rintro ⟨_, ⟨⟩, hfound, husable⟩
        exact hflawed (Option.some_inj.mp (hconfig.symm.trans hfound) ▸ husable)
      | ok =>
        have husable : found.IsUsable := validate_eq_ok_iff.mp hvalid
        simp only [hconfig, hvalid, Except.ok.injEq]
        constructor
        · rintro rfl
          exact ⟨text, rfl, hconfig, husable⟩
        · rintro ⟨_, rfl, hfound, -⟩
          exact Option.some_inj.mp (hconfig.symm.trans hfound)

/-! ### The configuration that holds -/

theorem load_of_file?_eq_none (h : file? files start = none) :
    load files start = .ok ⟨default, false, start⟩ := by
  rw [load, h]

theorem load_of_file?_eq_some (h : file? files start = some file) :
    load files start =
      (readFile files file).map fun config => ⟨config, true, file.parent?.getD start⟩ := by
  rw [load, h]
  simp only
  cases readFile files file <;> rfl

/-- A configuration file that is found holds if it can be read, and holds in its directory; if it
cannot, nothing holds in its place. -/
theorem load_of_isNearest (hstart : start.base = .root) (h : IsNearest files start a) :
    (∃ text config directory, files.readText (a.child fileName) = .ok text ∧
      ofText? text = some config ∧ config.IsUsable ∧
      directory.base = a.base ∧ directory.names = a.names ∧
      load files start = .ok ⟨config, true, directory⟩) ∨
    (¬ ∃ text config, files.readText (a.child fileName) = .ok text ∧
      ofText? text = some config ∧ config.IsUsable) ∧
    ∃ cause, load files start = .error cause := by
  have hfile := (file?_eq_some_iff hstart).mpr ⟨a, h, rfl⟩
  have hbase : a.base = .root := Path.base_of_mem_above hstart h.mem
  have hload := load_of_file?_eq_some hfile
  cases hread : readFile files (a.child fileName) with
  | ok config =>
    obtain ⟨text, htext, hconfig, husable⟩ := readFile_eq_ok_iff.mp hread
    have hname : Path.isTrivial fileName = false := by decide
    obtain ⟨directory, hparent, hroot, hnames⟩ := Path.exists_parent?_child hbase hname
    rw [hread, hparent] at hload
    exact .inl ⟨text, config, directory, htext, hconfig, husable, hroot.trans hbase.symm, hnames,
      hload⟩
  | error cause =>
    rw [hread] at hload
    refine .inr ⟨?_, cause, hload⟩
    rintro ⟨text, config, hok⟩
    cases hread.symm.trans (readFile_eq_ok_iff.mpr ⟨text, hok⟩)

/-- What holds for two directories that find the same configuration file is the same. -/
theorem load_eq_of_file? {other : Path} (hstart : start.base = .root)
    (h : file? files start = some file) (hother : file? files other = some file) :
    load files start = load files other := by
  obtain ⟨a, ha, rfl⟩ := (file?_eq_some_iff hstart).mp h
  have hname : Path.isTrivial fileName = false := by decide
  obtain ⟨directory, hparent, -⟩ :=
    Path.exists_parent?_child (Path.base_of_mem_above hstart ha.mem) hname
  rw [load_of_file?_eq_some h, load_of_file?_eq_some hother, hparent]
  rfl

end Config

/-! ### Runs in several directories -/

namespace Situation

variable {files : Entry} {start other : Path} {options : CommonOptions}

/-- Without a messages root of its own, a run depends on the working directory only through the
configuration that holds there. -/
theorem openProject_eq_of_load (h : Config.load files start = Config.load files other)
    (hroot : options.messagesRoot? = none) (width : String → Nat) (colours : Bool) :
    openProject ⟨files, start, width, colours⟩ options =
      openProject ⟨files, other, width, colours⟩ options := by
  simp only [openProject, h, messagesRoot, hroot]
  rfl

/-- Runs on the same keys from directories that find the same configuration file are the same. -/
theorem run_resolve_eq_of_file? {file : Path} (hstart : start.base = .root)
    (h : Config.file? files start = some file) (hother : Config.file? files other = some file)
    (hroot : options.messagesRoot? = none) (width : String → Nat) (colours : Bool)
    (keys : List String) (format : OutputFormat) :
    run ⟨files, start, width, colours⟩ (.resolve keys none format options) =
      run ⟨files, other, width, colours⟩ (.resolve keys none format options) := by
  have hproject :=
    openProject_eq_of_load (Config.load_eq_of_file? hstart h hother) hroot width colours
  simp only [run, runResolve, hproject]
  rfl

end Situation

namespace Config

variable {files : Entry} {start : Path}

/-- **Finding configurations.** Let `start` be an absolute path. The search goes up from it round by
round, through the directories whose names are the beginnings of its names, each shorter than the
one before. It finds the configuration file of the nearest of them that has one, if no repository
ends between `start` and there. If it finds none, the defaults hold; if it finds one, the
configuration in it holds in its directory, and can be used, or else nothing does. From all
directories for which it finds the same file, runs on the same keys are the same, if they are given
no messages root and no file of key expressions. -/
theorem load_discovery (files : Entry) (hstart : start.isAbsolute = true) :
    (file? files start =
      if files.holds (start.child fileName) then some (start.child fileName)
      else if files.holds (start.child repositoryName) then none
      else start.parent?.bind (file? files)) ∧
    (start :: start.above).map Path.names = start.names.inits.reverse ∧
    (∀ file, file? files start = some file ↔
      ∃ a, IsNearest files start a ∧ file = a.child fileName) ∧
    (file? files start = none → load files start = .ok ⟨default, false, start⟩) ∧
    (∀ a, IsNearest files start a →
      (∃ text config directory, files.readText (a.child fileName) = .ok text ∧
        ofText? text = some config ∧ config.IsUsable ∧
        directory.base = a.base ∧ directory.names = a.names ∧
        load files start = .ok ⟨config, true, directory⟩) ∨
      (¬ ∃ text config, files.readText (a.child fileName) = .ok text ∧
        ofText? text = some config ∧ config.IsUsable) ∧
      ∃ cause, load files start = .error cause) ∧
    ∀ (other : Path) (file : Path) width colours keys format (options : CommonOptions),
      file? files start = some file → file? files other = some file →
      options.messagesRoot? = none →
        Situation.run ⟨files, start, width, colours⟩ (.resolve keys none format options) =
          Situation.run ⟨files, other, width, colours⟩ (.resolve keys none format options) := by
  have hbase := Path.isAbsolute_iff.mp hstart
  refine ⟨file?_eq files hbase, Path.map_names_above hbase, fun file => file?_eq_some_iff hbase,
    load_of_file?_eq_none, fun a => load_of_isNearest hbase, ?_⟩
  intro other file width colours keys format options h hother hroot
  exact Situation.run_resolve_eq_of_file? hbase h hother hroot width colours keys format

/-- The file in the directory above is found though that is the top of a repository, and though
there is another file at the root. -/
theorem load_discovery_above :
    let project : Entry := .directory
      [(".git", .directory []), (".keyrefrc.json", .file "\x7b\x7d".toUTF8), ("src", .directory [])]
    let files : Entry := .directory
      [(".keyrefrc.json", .file "[1]".toUTF8), ("project", project)]
    let start : Path := ⟨["", "project", "src"]⟩
    start.isAbsolute = true ∧
      file? files start = some ⟨["", "project", ".keyrefrc.json"]⟩ ∧
      ∃ directory, directory.names = ["project"] ∧
        load files start = .ok ⟨default, true, directory⟩ := by
  intro project files start
  have hstart : start.isAbsolute = true := rfl
  obtain ⟨-, -, hfile, -, hload, -⟩ := load_discovery files hstart
  have hnearest : IsNearest files start ⟨["", "project"]⟩ :=
    ⟨by decide +kernel, by decide +kernel, by decide +kernel⟩
  have htext : files.readText (Path.child ⟨["", "project"]⟩ fileName) = .ok "\x7b\x7d" := rfl
  have hconfig : ofText? "\x7b\x7d" = some default := by cbv
  refine ⟨hstart, (hfile _).mpr ⟨_, hnearest, rfl⟩, ?_⟩
  rcases hload _ hnearest with ⟨text, config, directory, hread, hfound, -, -, hnames, h⟩ | ⟨h, -⟩
  · obtain rfl : text = "\x7b\x7d" := Except.ok.inj (hread.symm.trans htext)
    obtain rfl : config = default := Option.some_inj.mp (hfound.symm.trans hconfig)
    exact ⟨directory, hnames, h⟩
  · exact absurd ⟨_, default, htext, hconfig, validate_eq_ok_iff.mp rfl⟩ h

end Config

end MessageKeys
