import MessageKeys.Command.Arguments
import MessageKeys.Command.Run
import MessageKeys.Proofs.Config.Discovery
import MessageKeys.Proofs.Config.Fields
import MessageKeys.Proofs.Files.Change

/-!
# What runs do to files

Runs follow one another, each with its arguments in a directory of its own. A run of `init` writes a
configuration file if nothing is found under the name of such files. All other runs, and those that
fail, leave all files as they are. So after any number of runs all that was there is still there,
and what is new are configuration files that `init` runs have made; each gives the default
configuration.

They are made in the working directory under the name of configuration files, unless a link of this
name leads nowhere: nothing is found under it, though there is an entry of the name, and what a run
of `init` writes is made where the link leads to, if this is possible.

## Main definitions

* `MessageKeys.Invocation` — one run of the program, with `Invocation.exitCode` and
  `Invocation.filesAfter`.
* `MessageKeys.Invocation.filesAfterAll` — the files after some runs.
* `MessageKeys.Invocation.Strays` — a link leads nowhere that has the name of configuration files.
* `MessageKeys.Invocation.Makes` — what an `init` run makes.

## Main results

* `MessageKeys.Config.load_of_defaultText` — the configuration that an `init` run leaves behind.
* `MessageKeys.Situation.files_run_of_ne_init` — commands that leave all files as they are.
* `MessageKeys.Situation.runInit_cases` — a run of `init` writes the file, or leaves all as it is.
* `MessageKeys.Invocation.exists_makes_of_new` — which run has made what is new.
* `MessageKeys.Invocation.runs_frame` — the files and the outcomes of any number of runs.
* `MessageKeys.Invocation.init_on_stray_link_and_with_argument` — a link that leads nowhere, and
  arguments that are no command.
-/

namespace MessageKeys

/-! ### The default configuration -/

namespace Config

variable {files : Entry} {p : Path}

theorem isName_fileName : Path.IsName fileName := by decide

/-- The default configuration holds in a directory where its text is found. -/
theorem load_of_defaultText (hplain : p.IsPlain)
    (hread : files.readText (p.child fileName) = .ok defaultText)
    (hholds : files.holds (p.child fileName) = true) : load files p = .ok ⟨default, true, p⟩ := by
  have hfound : file? files p = some (p.child fileName) := by
    rw [file?, fileIn?_cons, if_pos hholds]
  have husable : default.IsUsable := validate_eq_ok_iff.mp rfl
  have hconfig : readFile files (p.child fileName) = .ok default :=
    readFile_eq_ok_iff.mpr ⟨defaultText, hread, ofText?_pretty _, husable⟩
  rw [load_of_file?_eq_some hfound, hconfig, hplain.parent?_child isName_fileName]
  rfl

end Config

/-! ### Commands -/

namespace Situation

variable {s : Situation} {command : Command}

/-- Only `init` leaves other files than it found. -/
theorem files_run_of_ne_init (h : command ≠ .init) : (s.run command).files = s.files := by
  cases command with
  | overview => rfl
  | resolve keys fragments? format options =>
    rw [run, runResolve]
    split
    · rfl
    · split <;> rfl
  | complete typed format options =>
    rw [run, runComplete]
    split <;> rfl
  | init => exact absurd rfl h

/-- A run of `init` fails if something is found under the name. -/
theorem runInit_of_holds (h : s.files.holds (s.directory.child Config.fileName) = true) :
    s.runInit = s.failed [] .configExists :=
  if_pos h

theorem runInit_of_write_eq_error {cause : AccessError}
    (h : s.files.holds (s.directory.child Config.fileName) = false)
    (hwrite : s.files.write (s.directory.child Config.fileName) Config.defaultText.toUTF8 =
      .error cause) : s.runInit = s.failed [] (.configUnwritable cause) := by
  simp only [runInit, h, hwrite, Bool.false_eq_true, if_false]

theorem runInit_of_write_eq_ok {files : Entry}
    (h : s.files.holds (s.directory.child Config.fileName) = false)
    (hwrite : s.files.write (s.directory.child Config.fileName) Config.defaultText.toUTF8 =
      .ok files) : s.runInit.exitCode = 0 ∧ s.runInit.files = files := by
  simp only [runInit, h, hwrite, Bool.false_eq_true, if_false, and_self]

/-- A run of `init` fails and leaves all files as they are, or nothing was found under the name and
the default configuration is written. -/
theorem runInit_cases (s : Situation) :
    (s.runInit.exitCode = 2 ∧ s.runInit.files = s.files) ∨
      (s.runInit.exitCode = 0 ∧ s.files.holds (s.directory.child Config.fileName) = false ∧
        s.files.write (s.directory.child Config.fileName) Config.defaultText.toUTF8 =
          .ok s.runInit.files) := by
  cases h : s.files.holds (s.directory.child Config.fileName) with
  | true => exact .inl (runInit_of_holds h ▸ ⟨rfl, rfl⟩)
  | false =>
    cases hwrite : s.files.write (s.directory.child Config.fileName)
        Config.defaultText.toUTF8 with
    | error cause => exact .inl (runInit_of_write_eq_error h hwrite ▸ ⟨rfl, rfl⟩)
    | ok files =>
      obtain ⟨hcode, hfiles⟩ := runInit_of_write_eq_ok h hwrite
      exact .inr ⟨hcode, rfl, congrArg Except.ok hfiles.symm⟩

end Situation

/-! ### Runs -/

/-- One run of the program. -/
structure Invocation where
  arguments : List String
  /-- The working directory. -/
  directory : Path
  /-- How many columns a text takes on the terminal. -/
  width : String → Nat
  /-- Whether the terminal shows colours. -/
  colours : Bool := false

namespace Invocation

/-- What the run is run on. -/
def situation (run : Invocation) (files : Entry) : Situation :=
  ⟨files, run.directory, run.width, run.colours⟩

/-- The exit code of the run. -/
def exitCode (run : Invocation) (files : Entry) : Nat :=
  match Command.ofArguments run.arguments with
  | .ok command => ((run.situation files).run command).exitCode
  | .error e => e.exitCode

/-- The files after the run. Arguments that are no command leave them as they are. -/
def filesAfter (run : Invocation) (files : Entry) : Entry :=
  match Command.ofArguments run.arguments with
  | .ok command => ((run.situation files).run command).files
  | .error _ => files

/-- The files after some runs, one after the other. -/
def filesAfterAll (files : Entry) (runs : List Invocation) : Entry :=
  runs.foldl (fun files run => run.filesAfter files) files

/-- The arguments ask for a configuration file. -/
def IsInit (run : Invocation) : Prop := Command.ofArguments run.arguments = .ok .init

instance (run : Invocation) : Decidable run.IsInit :=
  inferInstanceAs (Decidable (_ = _))

/-- The configuration file in the working directory. -/
def file (run : Invocation) : Path := run.directory.child Config.fileName

/-- The names that lead to the configuration file in the working directory. -/
def place (run : Invocation) : List String := run.directory.names ++ [Config.fileName]

/-- A link has the name of configuration files in the working directory, and leads nowhere. -/
def Strays (run : Invocation) (files : Entry) : Prop :=
  (∃ target, files.kindAt? run.place = some (.link target)) ∧ files.holds run.file = false

/-- The run makes a configuration file under these names, where there was no entry. -/
structure Makes (run : Invocation) (files : Entry) (names : List String) : Prop where
  isInit : run.IsInit
  isNew : files.kindAt? names = none
  eq_place_or_strays : names = run.place ∨ run.Strays files

variable {run : Invocation} {runs : List Invocation} {files : Entry} {names : List String}
  {kind : Entry.Kind}

theorem filesAfter_of_not_isInit (h : ¬ run.IsInit) (files : Entry) :
    run.filesAfter files = files := by
  unfold filesAfter
  split
  next command hcommand =>
    exact Situation.files_run_of_ne_init fun hinit => h (by rw [IsInit, hcommand, hinit])
  next => rfl

/-! ### The entry of the name -/

section Place

variable (hdir : files.IsWorkingDirectory run.directory)

include hdir

/-- Where there is an entry of the name, something is found under it, or it is a link that leads
nowhere. -/
theorem holds_of_not_strays (hstrays : ¬ run.Strays files)
    (hplace : files.kindAt? run.place ≠ none) : files.holds run.file = true := by
  by_cases hlink : ∃ target, files.kindAt? run.place = some (.link target)
  · exact eq_true_of_ne_false fun hnot => hstrays ⟨hlink, hnot⟩
  · exact (hdir.holds_child_iff Config.isName_fileName (not_exists.mp hlink)).mpr hplace

/-- Where there is no entry of the name, nothing is found under it. -/
theorem holds_of_kindAt?_eq_none (hplace : files.kindAt? run.place = none) :
    files.holds run.file = false := by
  have hlink (target : Path) : files.kindAt? run.place ≠ some (.link target) := by simp [hplace]
  rw [← Bool.not_eq_true, file, hdir.holds_child_iff Config.isName_fileName hlink]
  exact not_not_intro hplace

end Place

/-! ### One run -/

theorem IsInit.exitCode_eq_runInit (h : run.IsInit) (files : Entry) :
    run.exitCode files = (run.situation files).runInit.exitCode := by
  rw [exitCode, h]
  rfl

theorem IsInit.filesAfter_eq_runInit (h : run.IsInit) (files : Entry) :
    run.filesAfter files = (run.situation files).runInit.files := by
  rw [filesAfter, h]
  rfl

/-- A run of `init` fails and leaves all files as they are, or nothing was found under the name and
the default configuration is written. -/
theorem IsInit.cases (h : run.IsInit) (files : Entry) :
    (run.exitCode files = 2 ∧ run.filesAfter files = files) ∨
      (run.exitCode files = 0 ∧ files.holds run.file = false ∧
        files.write run.file Config.defaultText.toUTF8 = .ok (run.filesAfter files)) := by
  rw [h.exitCode_eq_runInit, h.filesAfter_eq_runInit]
  exact (run.situation files).runInit_cases

theorem IsInit.write_eq_ok (h : run.IsInit) (hcode : run.exitCode files = 0) :
    files.holds run.file = false ∧
      files.write run.file Config.defaultText.toUTF8 = .ok (run.filesAfter files) := by
  rcases h.cases files with ⟨hfail, -⟩ | ⟨-, hwritten⟩
  · omega
  · exact hwritten

theorem IsInit.exitCode_of_holds (h : run.IsInit) (hholds : files.holds run.file = true) :
    run.exitCode files = 2 := by
  rw [h.exitCode_eq_runInit, Situation.runInit_of_holds (s := run.situation files) hholds]
  rfl

/-- A run that fails leaves all files as they are. -/
theorem filesAfter_of_exitCode_ne_zero (hcode : run.exitCode files ≠ 0) :
    run.filesAfter files = files := by
  by_cases h : run.IsInit
  · rcases h.cases files with ⟨-, hfiles⟩ | ⟨hok, -⟩
    · exact hfiles
    · exact absurd hok hcode
  · exact filesAfter_of_not_isInit h files

/-- Where there is no entry of the name, a run of `init` succeeds. -/
theorem IsInit.exitCode_of_kindAt?_eq_none (h : run.IsInit)
    (hdir : files.IsWorkingDirectory run.directory) (hplace : files.kindAt? run.place = none) :
    run.exitCode files = 0 := by
  rw [h.exitCode_eq_runInit]
  have hholds := holds_of_kindAt?_eq_none hdir hplace
  have hwrite := hdir.write_child Config.isName_fileName hplace Config.defaultText.toUTF8
  exact (Situation.runInit_of_write_eq_ok (s := run.situation files) hholds hwrite).1

/-- If no link leads nowhere, a run of `init` succeeds exactly if there is no entry of the name. -/
theorem IsInit.exitCode_eq (h : run.IsInit) (hdir : files.IsWorkingDirectory run.directory)
    (hstrays : ¬ run.Strays files) :
    run.exitCode files = if files.kindAt? run.place = none then 0 else 2 := by
  split
  next hplace => exact h.exitCode_of_kindAt?_eq_none hdir hplace
  next hplace => exact h.exitCode_of_holds (holds_of_not_strays hdir hstrays hplace)

/-- A run of `init` that succeeds makes one file, and all other names lead to what they led to
before. -/
theorem IsInit.exists_makes (h : run.IsInit) (hdir : files.IsWorkingDirectory run.directory)
    (hcode : run.exitCode files = 0) :
    ∃ place, run.Makes files place ∧
      ∀ names, (run.filesAfter files).kindAt? names =
        if names = place then some (.file Config.defaultText.toUTF8) else files.kindAt? names := by
  obtain ⟨hholds, hwrite⟩ := h.write_eq_ok hcode
  obtain ⟨place, hdestination, hnew, hkind⟩ :=
    Entry.exists_of_write hdir.kindAt?_root hholds hwrite
  refine ⟨place, ⟨h, hnew, ?_⟩, hkind⟩
  by_cases hlink : run.Strays files
  · exact .inr hlink
  · -- nothing is found under the name, which is no link's, so the path leads to the place itself
    have hplace : files.kindAt? run.place = none := by
      by_contra hsome
      cases hholds.symm.trans (holds_of_not_strays hdir hlink hsome)
    rw [file, hdir.destination_child, Entry.resolve_nothing Config.isName_fileName hplace,
      if_pos rfl] at hdestination
    cases hdestination
    exact .inl rfl

/-- A run leaves all files as they are, or makes one configuration file. -/
theorem filesAfter_cases (hdir : files.IsWorkingDirectory run.directory) :
    run.filesAfter files = files ∨
      ∃ place, run.Makes files place ∧
        ∀ names, (run.filesAfter files).kindAt? names =
          if names = place then some (.file Config.defaultText.toUTF8)
          else files.kindAt? names := by
  by_cases h : run.IsInit
  · rcases h.cases files with ⟨-, hfiles⟩ | ⟨hcode, -⟩
    · exact .inl hfiles
    · exact .inr (h.exists_makes hdir hcode)
  · exact .inl (filesAfter_of_not_isInit h files)

/-- What is there stays there. -/
theorem extends_filesAfter (hdir : files.IsWorkingDirectory run.directory) :
    files.Extends (run.filesAfter files) := by
  rcases filesAfter_cases hdir with hfiles | ⟨place, hmakes, hkind⟩
  · rw [hfiles]
    exact .refl files
  · intro names kind hnames
    rw [hkind, if_neg, hnames]
    rintro rfl
    cases hnames.symm.trans hmakes.isNew

/-- What is new is a configuration file that the run makes. -/
theorem makes_of_new (hdir : files.IsWorkingDirectory run.directory)
    (hnew : files.kindAt? names = none) (h : (run.filesAfter files).kindAt? names = some kind) :
    kind = .file Config.defaultText.toUTF8 ∧ run.Makes files names := by
  rcases filesAfter_cases hdir with hfiles | ⟨place, hmakes, hkind⟩
  · rw [hfiles, hnew] at h
    cases h
  · rw [hkind] at h
    split at h
    next hnames =>
      cases h
      exact ⟨rfl, hnames ▸ hmakes⟩
    next => cases hnew.symm.trans h

/-- Right after a run of `init` that succeeds the default configuration holds in its directory. -/
theorem IsInit.load_filesAfter (h : run.IsInit) (hdir : files.IsWorkingDirectory run.directory)
    (hcode : run.exitCode files = 0) :
    Config.load (run.filesAfter files) run.directory =
      .ok ⟨Config.default, true, run.directory⟩ := by
  obtain ⟨hholds, hwrite⟩ := h.write_eq_ok hcode
  have hroot := hdir.kindAt?_root
  exact Config.load_of_defaultText hdir.isPlain (Entry.readText_of_write hroot hholds hwrite)
    (Entry.holds_of_write hroot hholds hwrite)

/-- After a run of `init` something is found under the name: what it has written, or what made it
fail. -/
theorem IsInit.holds_filesAfter (h : run.IsInit) (hdir : files.IsWorkingDirectory run.directory)
    (hcode : run.exitCode files = 0 ∨ ¬ run.Strays files) :
    (run.filesAfter files).holds run.file = true := by
  rcases h.cases files with ⟨hfail, hfiles⟩ | ⟨-, hholds, hwrite⟩
  · have hlink : ¬ run.Strays files := hcode.resolve_left (by omega)
    have hplace : files.kindAt? run.place ≠ none := fun hnone => by
      have hok := h.exitCode_of_kindAt?_eq_none hdir hnone
      omega
    rw [hfiles]
    exact holds_of_not_strays hdir hlink hplace
  · exact Entry.holds_of_write hdir.kindAt?_root hholds hwrite

/-! ### Any number of runs -/

/-- What is there stays there over any number of runs. -/
theorem extends_filesAfterAll (hdirs : ∀ run ∈ runs, files.IsWorkingDirectory run.directory) :
    files.Extends (filesAfterAll files runs) := by
  induction runs generalizing files with
  | nil => exact .refl files
  | cons run runs ih =>
    obtain ⟨hdir, hdirs⟩ := List.forall_mem_cons.mp hdirs
    have hmore := extends_filesAfter hdir
    exact hmore.trans (ih fun later hlater => (hdirs later hlater).of_extends hmore)

/-- What is new after some runs is a configuration file that one of them has made. -/
theorem exists_makes_of_new (hdirs : ∀ run ∈ runs, files.IsWorkingDirectory run.directory)
    (hnew : files.kindAt? names = none)
    (h : (filesAfterAll files runs).kindAt? names = some kind) :
    kind = .file Config.defaultText.toUTF8 ∧
      ∃ (before after : List Invocation) (run : Invocation), runs = before ++ run :: after ∧
        run.Makes (filesAfterAll files before) names := by
  induction runs generalizing files with
  | nil => cases hnew.symm.trans h
  | cons run runs ih =>
    obtain ⟨hdir, hdirs⟩ := List.forall_mem_cons.mp hdirs
    have hmore := extends_filesAfter hdir
    have hrest : ∀ later ∈ runs, (run.filesAfter files).IsWorkingDirectory later.directory :=
      fun later hlater => (hdirs later hlater).of_extends hmore
    cases hnext : (run.filesAfter files).kindAt? names with
    | none =>
      obtain ⟨hkind, before, after, maker, rfl, hmakes⟩ := ih hrest hnext h
      exact ⟨hkind, run :: before, after, maker, rfl, hmakes⟩
    | some made =>
      -- it stays what this run has made it
      cases (extends_filesAfterAll hrest _ _ hnext).symm.trans h
      obtain ⟨hkind, hmakes⟩ := makes_of_new hdir hnew hnext
      exact ⟨hkind, [], runs, run, rfl, hmakes⟩

/-- **What runs do to files.** Let each of some runs be made in a directory that is there at the
beginning. After all of them, names that led to a directory, a link or a file lead to a directory,
to a link with the same target or to a file with the same bytes. All that is new are files with the
default configuration, each made by a run of `init` where there was no entry: in its directory under
the name of configuration files, if no link of this name leads nowhere. All other runs leave all
files as they are, and so do those that fail. If no such link leads nowhere, a run of `init`
succeeds exactly if there is no entry of the name. Right after one that succeeds, the configuration
for its directory is the default one, is from a file and holds in this directory, and it can be
used; every later run of `init` there fails. -/
theorem runs_frame (hdirs : ∀ run ∈ runs, files.IsWorkingDirectory run.directory) :
    (∀ names kind, files.kindAt? names = some kind →
      (filesAfterAll files runs).kindAt? names = some kind) ∧
    (∀ names kind, files.kindAt? names = none →
      (filesAfterAll files runs).kindAt? names = some kind →
        kind = .file Config.defaultText.toUTF8 ∧
          ∃ (before after : List Invocation) (run : Invocation), runs = before ++ run :: after ∧
            run.Makes (filesAfterAll files before) names) ∧
    ∀ (before after : List Invocation) (run : Invocation), runs = before ++ run :: after →
      let now := filesAfterAll files before
      let next := run.filesAfter now
      (¬ run.IsInit ∨ run.exitCode now ≠ 0 → next = now) ∧
      (run.IsInit →
        (¬ run.Strays now →
          run.exitCode now = if now.kindAt? run.place = none then 0 else 2) ∧
        (run.exitCode now = 0 →
          Config.load next run.directory = .ok ⟨Config.default, true, run.directory⟩ ∧
            Config.default.validate = .ok () ∧
            (¬ run.Strays now →
              next.kindAt? run.place = some (.file Config.defaultText.toUTF8))) ∧
        (run.exitCode now = 0 ∨ ¬ run.Strays now →
          ∀ (between rest : List Invocation) (later : Invocation),
            after = between ++ later :: rest → later.IsInit → later.directory = run.directory →
              later.exitCode (filesAfterAll next between) = 2)) := by
  refine ⟨extends_filesAfterAll hdirs, fun names kind => exists_makes_of_new hdirs, ?_⟩
  rintro before after run rfl
  obtain ⟨hbefore, hrest⟩ := List.forall_mem_append.mp hdirs
  intro now next
  have hnow {p : Path} (h : files.IsWorkingDirectory p) : now.IsWorkingDirectory p :=
    h.of_extends (extends_filesAfterAll hbefore)
  have hrun := hnow (hrest run List.mem_cons_self)
  refine ⟨fun hsame => ?_, fun hinit => ⟨hinit.exitCode_eq hrun, fun hcode => ?_, ?_⟩⟩
  · exact hsame.elim (filesAfter_of_not_isInit · now) filesAfter_of_exitCode_ne_zero
  · obtain ⟨place, hmakes, hkind⟩ := hinit.exists_makes hrun hcode
    refine ⟨hinit.load_filesAfter hrun hcode, rfl, fun hlink => ?_⟩
    obtain rfl := hmakes.eq_place_or_strays.resolve_right hlink
    exact (hkind run.place).trans (if_pos rfl)
  · rintro hcode between rest later rfl hlater hsame
    have hbetween : ∀ other ∈ between, next.IsWorkingDirectory other.directory :=
      fun other hother =>
        (hnow (hrest other (by simp [hother]))).of_extends (extends_filesAfter hrun)
    have hholds : next.holds later.file = true := by
      rw [file, hsame]
      exact hinit.holds_filesAfter hrun hcode
    exact hlater.exitCode_of_holds (Entry.holds_of_extends (extends_filesAfterAll hbetween) hholds)

/-- Two runs of `init` in one directory, with a run of another command between them. -/
theorem runs_frame_twice :
    let files : Entry := .directory [("project", .directory [("notes.txt", .file "kept".toUTF8)])]
    let init : Invocation := ⟨["init"], ⟨["", "project"]⟩, String.length, false⟩
    let other : Invocation := ⟨["resolve", "title"], ⟨["", "project"]⟩, String.length, false⟩
    let first := init.filesAfter files
    files.IsWorkingDirectory init.directory ∧
      (filesAfterAll files [init, other, init]).kindAt? ["project", "notes.txt"] =
        some (.file "kept".toUTF8) ∧
      init.exitCode files = 0 ∧
      Config.load first init.directory = .ok ⟨Config.default, true, init.directory⟩ ∧
      first.kindAt? ["project", ".keyrefrc.json"] = some (.file Config.defaultText.toUTF8) ∧
      init.exitCode (filesAfterAll first [other]) = 2 := by
  intro files init other first
  have hdirectory : files.IsWorkingDirectory init.directory := ⟨by decide +kernel, rfl⟩
  have hdirs : ∀ run ∈ [init, other, init], files.IsWorkingDirectory run.directory := by
    simpa [other, init] using hdirectory
  have hinit : init.IsInit := by decide +kernel
  have hplace : files.kindAt? init.place = none := rfl
  have hstrays : ¬ init.Strays files := by simp [Strays, hplace]
  obtain ⟨hold, -, hrun⟩ := runs_frame hdirs
  obtain ⟨-, hfirst⟩ := hrun [] _ init rfl
  obtain ⟨hcode, hmade, hlater⟩ := hfirst hinit
  have hok : init.exitCode files = 0 := (hcode hstrays).trans (if_pos hplace)
  obtain ⟨hload, -, hfile⟩ := hmade hok
  exact ⟨hdirectory, hold _ _ rfl, hok, hload, hfile hstrays,
    hlater (.inl hok) [other] [] init rfl hinit rfl⟩

/-- A run of `init` succeeds though there is an entry of the name, and makes another file, for the
entry is a link that leads nowhere; and where there is no entry of the name, `init` with an argument
of its own fails. -/
theorem init_on_stray_link_and_with_argument :
    let init : Invocation := ⟨["init"], ⟨["", "project"]⟩, String.length, false⟩
    let here : Invocation := ⟨["init", "here"], ⟨["", "project"]⟩, String.length, false⟩
    let linked : Entry :=
      .directory [("project", .directory [(".keyrefrc.json", .link ⟨["other.json"]⟩)])]
    let empty : Entry := .directory [("project", .directory [])]
    (linked.kindAt? init.place = some (.link ⟨["other.json"]⟩) ∧ init.exitCode linked = 0 ∧
      linked.kindAt? ["project", "other.json"] = none ∧
      (init.filesAfter linked).kindAt? ["project", "other.json"] =
        some (.file Config.defaultText.toUTF8)) ∧
    empty.kindAt? here.place = none ∧ here.exitCode empty = 2 := by
  intro init here linked empty
  have hinit : init.IsInit := by decide +kernel
  have hok : init.exitCode linked = 0 := by decide +kernel
  have hfree : linked.destination init.file = .free ["project", "other.json"] := by decide +kernel
  refine ⟨⟨rfl, hok, rfl, ?_⟩, rfl, by decide +kernel⟩
  obtain ⟨hholds, hwrite⟩ := hinit.write_eq_ok hok
  obtain ⟨place, hplace, -, hkind⟩ := Entry.exists_of_write rfl hholds hwrite
  obtain rfl := Destination.free.inj (hplace.symm.trans hfree)
  exact (hkind _).trans (if_pos rfl)

end Invocation

end MessageKeys
