import Mathlib.Data.List.Infix
import MessageKeys.Proofs.Files.Path

/-!
# Paths above a path

Going up from an absolute path leaves out one name after the other, the last one first, until the
root is reached. The parts that do not count as names are passed over on the way.

## Main results

* `MessageKeys.Path.above_eq` — the paths above are found by going up step by step.
* `MessageKeys.Path.map_names_above` — the names of a path and of those above it.
* `MessageKeys.Path.exists_parent?_child` — going down and up again.
-/

namespace MessageKeys

namespace Path

variable {p up : Path} {parts : List String} {name : String}

theorem isAbsolute_iff : p.isAbsolute = true ↔ p.base = .root := beq_iff_eq

theorem trimEnd_reverse (parts : List String) :
    trimEnd parts.reverse = (parts.dropWhile isTrivial).reverse := by
  rw [trimEnd, List.reverse_reverse]

/-! ### Going up -/

theorem aboveParts_root_cons_of_trivial {part : String} (h : isTrivial part = true)
    (parts : List String) : aboveParts .root (part :: parts) = aboveParts .root parts := by
  rw [aboveParts, if_pos h]

theorem aboveParts_root_cons {part : String} (h : isTrivial part = false) (parts : List String) :
    aboveParts .root (part :: parts) =
      ofSplit .root (parts.dropWhile isTrivial).reverse :: aboveParts .root parts := by
  rw [aboveParts, if_neg (by simp [h]), trimEnd_reverse]

theorem aboveParts_dropWhile (parts : List String) :
    aboveParts .root (parts.dropWhile isTrivial) = aboveParts .root parts := by
  induction parts with
  | nil => rfl
  | cons part parts ih =>
    cases h : isTrivial part with
    | true => rw [List.dropWhile_cons_of_pos h, aboveParts_root_cons_of_trivial h, ih]
    | false => rw [List.dropWhile_cons_of_neg (by simp [h])]

theorem base_ofSplit_root (parts : List String) : (ofSplit .root parts).base = .root := by
  cases parts <;> rfl

theorem names_ofSplit_root (parts : List String) :
    (ofSplit .root parts).names = parts.filter fun part => !isTrivial part := by
  cases parts with
  | nil => simp [ofSplit, names, split, isTrivial]
  | cons part parts => rfl

theorem above_ofSplit_root (parts : List String) :
    (ofSplit .root parts.reverse).above = aboveParts .root parts := by
  cases h : parts.reverse with
  | nil =>
    rw [List.reverse_eq_nil_iff.mp h]
    rfl
  | cons part rest =>
    change aboveParts .root (part :: rest).reverse = _
    rw [← h, List.reverse_reverse]

theorem above_eq_aboveParts (h : p.base = .root) :
    p.above = aboveParts .root p.split.2.reverse := by
  rw [above, ← h, base]

theorem aboveParts_root_cases (parts : List String) :
    aboveParts .root parts = [] ∨ ∃ up, aboveParts .root parts = up :: up.above := by
  induction parts with
  | nil => exact .inl rfl
  | cons part parts ih =>
    cases h : isTrivial part with
    | true => rwa [aboveParts_root_cons_of_trivial h]
    | false =>
      refine .inr ⟨ofSplit .root (parts.dropWhile isTrivial).reverse, ?_⟩
      rw [aboveParts_root_cons h, above_ofSplit_root, aboveParts_dropWhile]

/-- The paths above a path are the next one and those above it. -/
theorem above_eq (h : p.base = .root) :
    p.above = match p.parent? with | none => [] | some up => up :: up.above := by
  rw [parent?, above_eq_aboveParts h]
  obtain hnil | ⟨up, hup⟩ := aboveParts_root_cases p.split.2.reverse
  · rw [hnil]
    rfl
  · rw [hup]
    rfl

theorem base_of_mem_aboveParts {parts : List String} (h : p ∈ aboveParts .root parts) :
    p.base = .root := by
  induction parts with
  | nil => cases h
  | cons part parts ih =>
    cases hpart : isTrivial part with
    | true => exact ih (by rwa [aboveParts_root_cons_of_trivial hpart] at h)
    | false =>
      rw [aboveParts_root_cons hpart] at h
      rcases List.mem_cons.mp h with rfl | h
      · exact base_ofSplit_root _
      · exact ih h

theorem base_of_mem_above (h : p.base = .root) (hup : up ∈ p :: p.above) : up.base = .root := by
  rcases List.mem_cons.mp hup with rfl | hup
  · exact h
  · exact base_of_mem_aboveParts (above_eq_aboveParts h ▸ hup)

/-! ### Names -/

theorem filter_dropWhile_isTrivial (parts : List String) :
    (parts.dropWhile isTrivial).filter (fun part => !isTrivial part) =
      parts.filter fun part => !isTrivial part := by
  induction parts with
  | nil => rfl
  | cons part parts ih =>
    cases h : isTrivial part with
    | true => simp [h, ih]
    | false => rw [List.dropWhile_cons_of_neg (by simp [h])]

/-- With the names read from the end, each path above lacks one more at the start. -/
theorem tails_filter_eq (parts : List String) :
    (parts.filter fun part => !isTrivial part).tails =
      (parts.filter fun part => !isTrivial part) ::
        (aboveParts .root parts).map fun up => up.names.reverse := by
  induction parts with
  | nil => rfl
  | cons part parts ih =>
    cases h : isTrivial part with
    | true => simpa [aboveParts_root_cons_of_trivial h, h] using ih
    | false =>
      have hnames : (ofSplit .root (parts.dropWhile isTrivial).reverse).names.reverse =
          parts.filter fun part => !isTrivial part := by
        rw [names_ofSplit_root, List.filter_reverse, List.reverse_reverse,
          filter_dropWhile_isTrivial]
      rw [aboveParts_root_cons h, List.map_cons, hnames, ← ih]
      simp [h]

/-- The names of an absolute path and of those above it: all beginnings of its names, the longest
first. -/
theorem map_names_above (h : p.base = .root) :
    (p :: p.above).map names = p.names.inits.reverse := by
  have hnames : p.names.reverse = p.split.2.reverse.filter fun part => !isTrivial part := by
    rw [names, List.filter_reverse]
  have htails := tails_filter_eq p.split.2.reverse
  rw [← hnames, ← above_eq_aboveParts h, List.tails_reverse] at htails
  have hmap := congrArg (List.map List.reverse) htails
  rw [List.map_reverse, List.map_map] at hmap
  simpa [Function.comp_def] using hmap.symm

/-- Going up, the paths have fewer and fewer names. -/
theorem pairwise_above (h : p.base = .root) :
    (p :: p.above).Pairwise fun d e => e.names.length < d.names.length := by
  have hinits : p.names.inits.reverse.Pairwise fun ns ms => ms.length < ns.length := by
    rw [List.pairwise_reverse, List.pairwise_iff_getElem]
    intro i j hi hj hij
    rw [List.length_inits] at hi hj
    rw [List.getElem_inits, List.getElem_inits, List.length_take_of_le (Nat.le_of_lt_succ hi),
      List.length_take_of_le (Nat.le_of_lt_succ hj)]
    exact hij
  rw [← map_names_above h, List.pairwise_map] at hinits
  exact hinits

/-! ### Going down and up again -/

/-- Above an entry of a directory is the directory, but for trivial parts at its end. -/
theorem exists_parent?_child (h : p.base = .root) (hname : isTrivial name = false) :
    ∃ d, (p.child name).parent? = some d ∧ d.base = .root ∧ d.names = p.names := by
  have hsplit : p.split = (.root, p.split.2) := Prod.ext h rfl
  refine ⟨ofSplit .root ((dropSlash p.split.2).reverse.dropWhile isTrivial).reverse, ?_,
    base_ofSplit_root _, ?_⟩
  · rw [parent?, above_eq_aboveParts (base_child h name), split_child hsplit,
      List.reverse_append, List.reverse_singleton, List.singleton_append,
      aboveParts_root_cons hname, List.head?_cons]
  · rw [names_ofSplit_root, List.filter_reverse, filter_dropWhile_isTrivial, ← List.filter_reverse,
      List.reverse_reverse, filter_dropSlash, names_eq_filter hsplit]

end Path

end MessageKeys
