import Mathlib.Data.List.Infix
import Mathlib.Data.List.TakeWhile
import MessageKeys.Files.Path

/-!
# Paths below a directory

Names that lead down from a directory are put behind its path one by one. Behind an absolute path
they are all kept as they are, and the path is seen from the directory as just these names, however
the directory is written: with dots, with doubled slashes or with a slash at its end. The stem and
the extension of a file are the two sides of the last dot in its name.

## Main definitions

* `MessageKeys.Path.IsName` — a part of a path that names an entry of a directory.
* `MessageKeys.Path.below` — the path that some names lead to.

## Main results

* `MessageKeys.Path.split_below` — the parts of a path below an absolute path.
* `MessageKeys.Path.names_below` — its names.
* `MessageKeys.Path.relativeTo?_below` — the path as seen from the one above it.
* `MessageKeys.Path.splitName_eq_iff` — when a name has a stem and an extension.
-/

namespace MessageKeys

namespace Path

variable {p : Path} {parts : List String} {name : String} {names : List String}

/-! ### Names -/

/-- The part names an entry of a directory: neither this directory nor the one above. -/
def IsName (part : String) : Prop := isTrivial part = false ∧ part ≠ ".."

instance (part : String) : Decidable (IsName part) := inferInstanceAs (Decidable (_ ∧ _))

theorem IsName.isTrivial_eq (h : IsName name) : isTrivial name = false := h.1

theorem IsName.ne_empty (h : IsName name) : name ≠ "" := by
  rintro rfl
  exact absurd h.isTrivial_eq (by decide)

theorem IsName.ne_dot (h : IsName name) : name ≠ "." := by
  rintro rfl
  exact absurd h.isTrivial_eq (by decide)

theorem filter_isName (h : ∀ name ∈ names, IsName name) :
    names.filter (fun part => !isTrivial part) = names :=
  List.filter_eq_self.mpr fun name hmem => by rw [(h name hmem).isTrivial_eq]; rfl

/-! ### Going down -/

/-- The path that some names lead to from `p`. -/
def below (p : Path) (names : List String) : Path := names.foldl child p

@[simp] theorem below_nil (p : Path) : p.below [] = p := rfl

@[simp] theorem below_cons (p : Path) (name : String) (names : List String) :
    p.below (name :: names) = (p.child name).below names := rfl

/-- The parts of a path without the empty one that a slash at its end leaves. -/
def dropSlash (parts : List String) : List String :=
  if parts.getLast? = some "" then parts.dropLast else parts

theorem eq_dropSlash_or (parts : List String) :
    parts = dropSlash parts ∨ parts = dropSlash parts ++ [""] := by
  unfold dropSlash
  split
  · rename_i hlast
    exact .inr (List.dropLast_append_getLast? "" hlast).symm
  · exact .inl rfl

theorem dropSlash_append_singleton (h : name ≠ "") :
    dropSlash (parts ++ [name]) = parts ++ [name] := by
  simp [dropSlash, h]

theorem split_eq_root_iff :
    p.split = (.root, parts) ↔ parts ≠ [] ∧ p.parts = "" :: parts := by
  obtain ⟨ps⟩ := p
  unfold split
  split <;> rename_i hps
  · simp only at hps
    subst hps
    constructor
    · rintro ⟨⟩
      exact ⟨List.cons_ne_nil _ _, rfl⟩
    · rintro ⟨-, ⟨⟩⟩
      rfl
  · simp_all
  · rename_i hroot
    simp only [Prod.mk.injEq, reduceCtorEq, false_and, false_iff, not_and]
    intro hne hparts
    obtain ⟨part, rest, rfl⟩ := List.exists_cons_of_ne_nil hne
    exact hroot _ _ hparts

theorem base_eq_root (h : p.split = (.root, parts)) : p.base = .root := congrArg Prod.fst h

theorem names_eq_filter (h : p.split = (.root, parts)) :
    p.names = parts.filter fun part => !isTrivial part := by
  rw [names, h]

theorem child_eq (p : Path) (name : String) : p.child name = ⟨dropSlash p.parts ++ [name]⟩ := by
  have habsolute : isAbsolute ⟨[name]⟩ = false := by
    unfold isAbsolute base split
    split <;> simp_all
  simp only [child, join, habsolute, dropSlash, Bool.false_eq_true, if_false]
  split <;> rfl

theorem dropSlash_cons (h : parts ≠ []) (part : String) :
    dropSlash (part :: parts) = part :: dropSlash parts := by
  obtain ⟨first, rest, rfl⟩ := List.exists_cons_of_ne_nil h
  simp only [dropSlash, List.getLast?_cons_cons, List.dropLast_cons_cons]
  split <;> rfl

theorem split_child (h : p.split = (.root, parts)) (name : String) :
    (p.child name).split = (.root, dropSlash parts ++ [name]) := by
  obtain ⟨hne, hparts⟩ := split_eq_root_iff.mp h
  rw [child_eq, split_eq_root_iff, hparts, dropSlash_cons hne]
  exact ⟨by simp, rfl⟩

theorem base_child (h : p.base = .root) (name : String) : (p.child name).base = .root :=
  base_eq_root (split_child (Prod.ext h rfl) name)

/-- Below an absolute path all names are parts as they are. -/
theorem split_below (h : p.split = (.root, parts)) (hne : names ≠ [])
    (hnames : ∀ name ∈ names, IsName name) :
    (p.below names).split = (.root, dropSlash parts ++ names) := by
  induction names generalizing p parts with
  | nil => exact absurd rfl hne
  | cons name names ih =>
    have hchild := split_child h name
    by_cases hrest : names = []
    · subst hrest
      exact hchild
    · have hkept : dropSlash (dropSlash parts ++ [name]) = dropSlash parts ++ [name] :=
        dropSlash_append_singleton (hnames name List.mem_cons_self).ne_empty
      rw [below_cons, ih hchild hrest fun n hn => hnames n (List.mem_cons_of_mem _ hn), hkept,
        List.append_assoc, List.singleton_append]

theorem filter_dropSlash (parts : List String) :
    (dropSlash parts).filter (fun part => !isTrivial part) =
      parts.filter fun part => !isTrivial part := by
  obtain h | h := eq_dropSlash_or parts
  · rw [← h]
  · conv_rhs => rw [h, List.filter_append]
    simp [isTrivial]

/-- The names of a path below an absolute path: those of the path above, and those that lead on. -/
theorem names_below (h : p.base = .root) (hnames : ∀ name ∈ names, IsName name) :
    (p.below names).names = p.names ++ names := by
  have hsplit : p.split = (.root, p.split.2) := Prod.ext h rfl
  by_cases hne : names = []
  · simp [hne]
  · rw [names_eq_filter (split_below hsplit hne hnames), List.filter_append, filter_dropSlash,
      filter_isName hnames, names_eq_filter hsplit]

theorem base_below (h : p.base = .root) (hnames : ∀ name ∈ names, IsName name) :
    (p.below names).base = .root := by
  have hsplit : p.split = (.root, p.split.2) := Prod.ext h rfl
  by_cases hne : names = []
  · simpa [hne] using h
  · exact base_eq_root (split_below hsplit hne hnames)

/-! ### Looking from above -/

theorem dropNames_append (parts rest : List String) :
    dropNames (parts.filter fun part => !isTrivial part).length (parts ++ rest) =
      dropNames 0 rest := by
  induction parts with
  | nil => rfl
  | cons part parts ih =>
    cases hpart : isTrivial part <;>
      simpa [dropNames, hpart, List.filter_cons] using ih

theorem trimEnd_eq_self (hnames : ∀ name ∈ names, IsName name) : trimEnd names = names := by
  rw [trimEnd]
  cases hreverse : names.reverse with
  | nil => simpa using hreverse.symm
  | cons last rest =>
    have hlast : last ∈ names := List.mem_reverse.mp (hreverse ▸ List.mem_cons_self)
    rw [List.dropWhile_cons_of_neg (by simp [(hnames last hlast).isTrivial_eq]), ← hreverse,
      List.reverse_reverse]

theorem split_mk_of_isName (h : IsName name) (names : List String) :
    split ⟨name :: names⟩ = (.unnamed, name :: names) := by
  have hempty := h.ne_empty
  have hdot := h.ne_dot
  unfold split
  split <;> simp_all

theorem names_mk (hne : names ≠ []) (hnames : ∀ name ∈ names, IsName name) :
    Path.names ⟨names⟩ = names := by
  obtain ⟨name, rest, rfl⟩ := List.exists_cons_of_ne_nil hne
  rw [Path.names, split_mk_of_isName (hnames name List.mem_cons_self), filter_isName hnames]

/-- The path that some names lead to is seen from where they start as these names. -/
theorem relativeTo?_below (h : p.base = .root) (hne : names ≠ [])
    (hnames : ∀ name ∈ names, IsName name) : (p.below names).relativeTo? p = some ⟨names⟩ := by
  have hsplit : p.split = (.root, p.split.2) := Prod.ext h rfl
  have hstays : dropNames 0 names = names := by
    obtain ⟨name, rest, rfl⟩ := List.exists_cons_of_ne_nil hne
    simp [dropNames, (hnames name List.mem_cons_self).isTrivial_eq]
  have hdrop : dropNames p.names.length (p.below names).split.2 = names := by
    rw [split_below hsplit hne hnames, names_eq_filter hsplit, ← filter_dropSlash,
      dropNames_append, hstays]
  have hprefix : p.names.isPrefixOf (p.below names).names = true := by
    rw [names_below h hnames, List.isPrefixOf_iff_prefix]
    exact List.prefix_append _ _
  have hsub : ofSplit .unnamed names = ⟨names⟩ := by
    obtain ⟨name, rest, rfl⟩ := List.exists_cons_of_ne_nil hne
    rfl
  simp [relativeTo?, h, base_below h hnames, hprefix, hdrop, trimEnd_eq_self hnames, hsub]

/-! ### Names of files -/

theorem fileName?_below {dirs : List String} (h : p.base = .root)
    (hnames : ∀ n ∈ dirs ++ [name], IsName n) :
    (p.below (dirs ++ [name])).fileName? = some name := by
  have hname : name ≠ ".." := (hnames name (by simp)).2
  have hlast : (p.below (dirs ++ [name])).names.getLast? = some name := by
    rw [names_below h hnames, ← List.append_assoc, List.getLast?_concat]
  unfold fileName?
  split <;> simp_all

theorem splitName_append {stem extension : String} (hstem : stem ≠ "")
    (hextension : '.' ∉ extension.toList) :
    splitName (stem ++ "." ++ extension) = (stem, some extension) := by
  have hreverse : (stem ++ "." ++ extension).toList.reverse =
      extension.toList.reverse ++ '.' :: stem.toList.reverse := by simp
  have hkeep : ∀ c ∈ extension.toList.reverse, (c != '.') = true := fun c hc => by
    rw [bne_iff_ne]
    rintro rfl
    exact hextension (List.mem_reverse.mp hc)
  have hbehind : (stem ++ "." ++ extension).toList.reverse.takeWhile (· != '.') =
      extension.toList.reverse := by
    rw [hreverse, List.takeWhile_append_of_pos hkeep]
    simp
  have hbefore : ((stem ++ "." ++ extension).toList.reverse.dropWhile (· != '.')).drop 1 =
      stem.toList.reverse := by
    rw [hreverse, List.dropWhile_append_of_pos hkeep]
    simp
  have hne : stem.toList.reverse ≠ [] := by simpa using hstem
  simp only [splitName, hbehind, hbefore, List.reverse_reverse, String.ofList_toList]

/-- Read from its end, a name with an extension has a dot behind it and the stem behind that. -/
theorem exists_of_splitName {name stem extension : String}
    (h : splitName name = (stem, some extension)) :
    name.toList.reverse.dropWhile (· != '.') = '.' :: stem.toList.reverse ∧ stem ≠ "" ∧
      name.toList.reverse.takeWhile (· != '.') = extension.toList.reverse := by
  unfold splitName at h
  split at h
  · simp at h
  · rename_i hne
    obtain ⟨rfl, hextension⟩ := Prod.mk.inj h
    have hbehind := Option.some.inj hextension
    obtain ⟨c, before, hdrop⟩ :
        ∃ c before, name.toList.reverse.dropWhile (· != '.') = c :: before :=
      List.exists_cons_of_ne_nil fun hnil => hne (by rw [hnil]; rfl)
    have hdot : c = '.' := by
      have hstop := List.head_dropWhile_not (· != '.') (l := name.toList.reverse) (by simp [hdrop])
      simpa [hdrop] using hstop
    subst hdot
    rw [hdrop] at hne ⊢
    exact ⟨by simp, by simpa using hne, by simp [← hbehind]⟩

/-- A name has a stem and an extension if it has a dot behind its first character; the last dot is
between them. -/
theorem splitName_eq_iff {name stem extension : String} :
    splitName name = (stem, some extension) ↔
      name = stem ++ "." ++ extension ∧ stem ≠ "" ∧ '.' ∉ extension.toList := by
  refine ⟨fun h => ?_, fun ⟨hname, hstem, hextension⟩ => hname ▸ splitName_append hstem hextension⟩
  obtain ⟨hbefore, hstem, hbehind⟩ := exists_of_splitName h
  have hall := List.takeWhile_append_dropWhile (p := (· != '.')) (l := name.toList.reverse)
  refine ⟨?_, hstem, fun hmem => ?_⟩
  · rw [← String.toList_inj, ← List.reverse_inj, ← hall, hbefore, hbehind]
    simp
  · have hdot : '.' ∈ name.toList.reverse.takeWhile (· != '.') := by
      rw [hbehind]
      exact List.mem_reverse.mpr hmem
    exact absurd (List.mem_takeWhile_imp hdot) (by decide)

end Path

end MessageKeys
