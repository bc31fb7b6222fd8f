import MessageKeys.Proofs.Files.Destination
import MessageKeys.Proofs.Text.Sorting

/-!
# The files below a directory

Names lead down from a directory to the entries below it. A path that leads to the directory,
through links or not, leads on along such names. The files below the directory are listed once each,
in the order in which their paths compare name by name, and what is behind a link is not listed.
This is not the order of their texts: `a/b` comes before `a-b`, though the slash comes behind the
hyphen.

## Main definitions

* `MessageKeys.Entry.IsProper` — all directories have proper names for what is in them, once each.

## Main results

* `MessageKeys.Entry.find_below` — the files that are found along a path and names that lead on from
  it.
* `MessageKeys.Entry.mem_filesBelow_iff` — the listing has exactly the files below the directory.
* `MessageKeys.Entry.pairwise_filesBelow` — the listing is in strict order.
-/

namespace MessageKeys

namespace Entry

variable {files entry found : Entry} {entries : List (String × Entry)} {p : Path}
  {names : List String}

/-! ### Entries and their names -/

/-- In every directory the entries have names that lead to them, and no two have the same, as it is
in all directories that can be read. -/
inductive IsProper : Entry → Prop where
  | file (bytes : ByteArray) : IsProper (file bytes)
  | link (target : Path) : IsProper (link target)
  | directory {entries : List (String × Entry)} (nodup : (entries.map Prod.fst).Nodup)
      (isName : ∀ e ∈ entries, Path.IsName e.1) (below : ∀ e ∈ entries, IsProper e.2) :
      IsProper (directory entries)

theorem mem_of_lookup {name : String} (h : entries.lookup name = some entry) :
    (name, entry) ∈ entries := by
  obtain ⟨before, after, rfl, -⟩ := List.lookup_eq_some_iff.mp h
  simp

theorem lookup_eq_some_iff_mem {name : String} (hnodup : (entries.map Prod.fst).Nodup) :
    entries.lookup name = some entry ↔ (name, entry) ∈ entries := by
  refine ⟨mem_of_lookup, fun hmem => ?_⟩
  obtain ⟨before, after, rfl⟩ := List.append_of_mem hmem
  refine List.lookup_eq_some_iff.mpr ⟨before, after, rfl, fun e he => ?_⟩
  rw [List.map_append, List.map_cons, List.nodup_append] at hnodup
  simpa using (hnodup.2.2 e.1 (List.mem_map_of_mem he) name List.mem_cons_self).symm

theorem IsProper.isName_of_at? (h : entry.IsProper) (hfound : entry.at? names = some found) :
    ∀ name ∈ names, Path.IsName name := by
  induction names generalizing entry with
  | nil => simp
  | cons name names ih =>
    obtain ⟨next, hlookup, hnext⟩ := Option.bind_eq_some_iff.mp hfound
    cases h with
    | file | link => simp at hlookup
    | directory _ hname hbelow =>
      have hmem := mem_of_lookup hlookup
      exact List.forall_mem_cons.mpr ⟨hname _ hmem, ih (hbelow _ hmem) hnext⟩

/-! ### Finding files -/

/-- Behind a path to a directory, names that lead on from it to a file are followed to this file. -/
theorem find_below {bytes : ByteArray} (h : files.find p = .ok entry)
    (hnames : ∀ name ∈ names, Path.IsName name) (hfound : entry.at? names = some (.file bytes)) :
    files.find (p.below names) = .ok (.file bytes) := by
  have hbase : p.base = .root := base_eq_root_of_find h
  have hsplit : p.split = (.root, p.split.2) := Prod.ext hbase rfl
  obtain ⟨top, htop, hat⟩ := find_eq_ok_iff.mp h
  rw [destination_eq hbase] at htop
  obtain rfl | ⟨dirs, name, rfl⟩ := List.eq_nil_or_concat' names
  · rw [Path.below_nil, h, ← Option.some.inj hfound]
  obtain ⟨hdirs, hname⟩ := List.forall_mem_append.mp hnames
  have hfile : files.kindAt? ((top ++ dirs) ++ [name]) = some (.file bytes) := by
    rw [List.append_assoc, kindAt?_append, hat, Option.bind_some, kindAt?, hfound]
    rfl
  have hbelow : files.kindAt? (top ++ dirs) = some .directory :=
    kindAt?_of_append hfile (List.cons_ne_nil _ _)
  have hkind : files.kindAt? top = some .directory := by
    by_cases hnil : dirs = []
    · simpa [hnil] using hbelow
    · exact kindAt?_of_append hbelow hnil
  obtain ⟨left, hleft⟩ := exists_resolve_append (resolve_dropSlash htop) (by simp [hkind])
  have hplace : files.destination (p.below (dirs ++ [name])) =
      .found ((top ++ dirs) ++ [name]) := by
    simp only [destination, Path.split_below hsplit (by simp) hnames]
    rw [hleft, resolve_directories hbelow hdirs,
      resolve_file (List.forall_mem_singleton.mp hname) hfile, if_pos rfl]
  have hthere : files.at? ((top ++ dirs) ++ [name]) = some (.file bytes) := by
    rw [List.append_assoc, at?_append, hat, Option.bind_some, hfound]
  exact find_eq_ok_iff.mpr ⟨_, hplace, hthere⟩

/-! ### Listing -/

theorem filesIn_eq_map (p : Path) (entries : List (String × Entry)) :
    filesIn p entries = entries.map fun e => (e.1, filesBelow (p.child e.1) e.2) := by
  induction entries with
  | nil => rfl
  | cons e entries ih => rw [filesIn, ih, List.map_cons]

theorem mem_filesBelow_directory {file : Path} :
    file ∈ filesBelow p (directory entries) ↔
      ∃ e ∈ entries, file ∈ filesBelow (p.child e.1) e.2 := by
  simp [filesBelow, filesIn_eq_map, List.mem_flatMap]

/-- The files below an entry are listed, and nothing else. -/
theorem mem_filesBelow_iff (h : entry.IsProper) {file : Path} :
    file ∈ filesBelow p entry ↔
      ∃ names bytes, entry.at? names = some (.file bytes) ∧ file = p.below names := by
  induction h generalizing p with
  | file bytes =>
    constructor
    · intro hmem
      exact ⟨[], bytes, rfl, List.mem_singleton.mp hmem⟩
    · rintro ⟨names | _, _, hfound, rfl⟩
      · exact List.mem_singleton_self _
      · simp at hfound
  | link target =>
    constructor
    · intro hmem
      cases hmem
    · rintro ⟨names | _, _, hfound, rfl⟩ <;> simp at hfound
  | @directory entries hnodup hname _ ih =>
    rw [mem_filesBelow_directory]
    constructor
    · rintro ⟨⟨name, next⟩, hmem, hfile⟩
      obtain ⟨names, bytes, hfound, rfl⟩ := (ih _ hmem).mp hfile
      refine ⟨name :: names, bytes, ?_, rfl⟩
      simp [(lookup_eq_some_iff_mem hnodup).mpr hmem, hfound]
    · rintro ⟨names | ⟨name, names⟩, bytes, hfound, rfl⟩
      · cases hfound
      · obtain ⟨next, hlookup, hnext⟩ := Option.bind_eq_some_iff.mp hfound
        have hmem := mem_of_lookup hlookup
        exact ⟨_, hmem, (ih _ hmem).mpr ⟨names, bytes, hnext, rfl⟩⟩

/-- What is listed under a name has this name next. -/
theorem exists_names_of_mem_filesBelow {e : String × Entry} {file : Path} (h : p.base = .root)
    (hname : Path.IsName e.1) (hproper : e.2.IsProper)
    (hmem : file ∈ filesBelow (p.child e.1) e.2) :
    ∃ names, file.names = p.names ++ e.1 :: names := by
  obtain ⟨names, bytes, hfound, rfl⟩ := (mem_filesBelow_iff hproper).mp hmem
  have hnames := hproper.isName_of_at? hfound
  have hall : ∀ name ∈ e.1 :: names, Path.IsName name := List.forall_mem_cons.mpr ⟨hname, hnames⟩
  exact ⟨names, Path.names_below h hall⟩

/-- The files are listed in the order in which their paths compare name by name. -/
theorem pairwise_filesBelow (hp : p.base = .root) (h : entry.IsProper) :
    (filesBelow p entry).Pairwise fun x y => x.names < y.names := by
  induction h generalizing p with
  | file bytes => exact List.pairwise_singleton _ _
  | link target => exact .nil
  | @directory entries hnodup hname hbelow ih =>
    have hlisted : ∀ listed ∈ filesIn p entries,
        ∃ e ∈ entries, listed = (e.1, filesBelow (p.child e.1) e.2) := by
      simp [filesIn_eq_map, eq_comm]
    have hkeys : ((filesIn p entries).map Prod.fst).Nodup := by
      simpa [filesIn_eq_map, Function.comp_def] using hnodup
    rw [filesBelow, List.pairwise_flatMap]
    constructor
    · intro listed hmem
      obtain ⟨e, he, rfl⟩ := hlisted _ (List.mem_mergeSort.mp hmem)
      exact ih e he (Path.base_child hp e.1)
    · refine (pairwise_mergeSort_lt hkeys).imp_of_mem fun ha hb hlt x hx y hy => ?_
      obtain ⟨a, ha', rfl⟩ := hlisted _ (List.mem_mergeSort.mp ha)
      obtain ⟨b, hb', rfl⟩ := hlisted _ (List.mem_mergeSort.mp hb)
      obtain ⟨as, hx⟩ := exists_names_of_mem_filesBelow hp (hname a ha') (hbelow a ha') hx
      obtain ⟨bs, hy⟩ := exists_names_of_mem_filesBelow hp (hname b hb') (hbelow b hb') hy
      -- The name in this directory is the first one in which the two paths differ.
      rw [hx, hy]
      exact List.append_left_lt (List.cons_lt_cons_iff.mpr (.inl hlt))

/-- The texts of two paths can compare the other way, since a hyphen comes before a slash. -/
example :
    (Path.mk ["", "a", "b"]).names < (Path.mk ["", "a-b"]).names ∧
      (Path.mk ["", "a-b"]).text < (Path.mk ["", "a", "b"]).text := by
  decide

end Entry

end MessageKeys
