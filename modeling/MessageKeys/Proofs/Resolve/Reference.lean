import MessageKeys.Resolve.Reference

/-!
# How far a key goes

A key is followed by the names of the children alone, except for its last segment, which may take a
plural form. So a key resolves completely exactly if all segments but the last one lead to a node
by their own names, and that node has the last one as a child or as a plural form.

## Main definitions

* `MessageKeys.Tree.follow?` — the node that names lead to, without plural forms.

## Main results

* `MessageKeys.Tree.resolve_of_follow?` — names that lead to a node are a part of the path.
* `MessageKeys.Tree.isResolved_resolve_iff` — when a key resolves completely.
* `MessageKeys.Tree.path_resolve_eq_nil_iff` — when nothing of a key resolves.
* `MessageKeys.Tree.mem_completions_iff` — what is offered behind a prefix.
-/

namespace MessageKeys

namespace Tree

/-- The node that names lead to, each of them the name of a child. -/
def follow? (t : Tree) : List String → Option Tree
  | [] => some t
  | name :: names => (t.child? name).bind fun child => child.follow? names

variable {rules : PluralRules} {t node child : Tree} {name typed more : String}
  {names rest : List String}

/-! ### Children -/

theorem isSome_child?_iff : (t.child? name).isSome ↔ name ∈ t.childNames := by
  rw [child?, List.lookup_isSome_iff]
  simp [childNames]

theorem mem_children_of_child? (h : t.child? name = some child) : (name, child) ∈ t.children := by
  obtain ⟨before, after, hchildren, -⟩ := List.lookup_eq_some_iff.mp h
  simp [hchildren]

/-! ### The steps of a resolution -/

theorem resolve_cons (rules : PluralRules) (t : Tree) (name : String) (rest : List String) :
    t.resolve rules (name :: rest) =
      match t.child? name with
      | some child =>
        { child.resolve rules rest with path := name :: (child.resolve rules rest).path }
      | none =>
        match rest, t.pluralChild? rules name with
        | [], some child => ⟨[name], child, [], true⟩
        | _, _ => ⟨[], t, name :: rest, false⟩ := rfl

theorem resolve_cons_of_child? (h : t.child? name = some child) (rest : List String) :
    t.resolve rules (name :: rest) =
      { child.resolve rules rest with path := name :: (child.resolve rules rest).path } := by
  rw [resolve_cons, h]

theorem resolve_cons_of_ne_nil (h : t.child? name = none) (hrest : rest ≠ []) :
    t.resolve rules (name :: rest) = ⟨[], t, name :: rest, false⟩ := by
  rw [resolve_cons, h]
  match rest, hrest with
  | name' :: rest, _ => rfl

theorem resolve_singleton_of_plural (h : t.child? name = none)
    (hplural : t.pluralChild? rules name = some child) :
    t.resolve rules [name] = ⟨[name], child, [], true⟩ := by
  rw [resolve_cons, h, hplural]

theorem resolve_singleton_of_none (h : t.child? name = none)
    (hplural : t.pluralChild? rules name = none) :
    t.resolve rules [name] = ⟨[], t, [name], false⟩ := by
  rw [resolve_cons, h, hplural]

/-- A key is the path that resolved with the segments that did not. -/
theorem path_append_unresolved (rules : PluralRules) (t : Tree) (key : List String) :
    (t.resolve rules key).path ++ (t.resolve rules key).unresolved = key := by
  induction key generalizing t with
  | nil => rfl
  | cons name rest ih =>
    cases hchild : t.child? name with
    | some child => rw [resolve_cons_of_child? hchild, List.cons_append, ih]
    | none =>
      by_cases hrest : rest = []
      · subst hrest
        cases hplural : t.pluralChild? rules name with
        | none => rw [resolve_singleton_of_none hchild hplural, List.nil_append]
        | some child => rw [resolve_singleton_of_plural hchild hplural, List.append_nil]
      · rw [resolve_cons_of_ne_nil hchild hrest, List.nil_append]

/-- The path of a key that resolves completely is the key. -/
theorem path_resolve_eq_of_isResolved (h : (t.resolve rules names).isResolved) :
    (t.resolve rules names).path = names := by
  have hkey := path_append_unresolved rules t names
  rwa [List.isEmpty_iff.mp h, List.append_nil] at hkey

/-- Names that lead to a node resolve, and the rest of the key is looked up there. -/
theorem resolve_of_follow? (h : t.follow? names = some node) (rest : List String) :
    t.resolve rules (names ++ rest) =
      { node.resolve rules rest with path := names ++ (node.resolve rules rest).path } := by
  induction names generalizing t with
  | nil =>
    obtain rfl : t = node := Option.some_inj.mp h
    rfl
  | cons name names ih =>
    obtain ⟨child, hchild, hfollow⟩ := Option.bind_eq_some_iff.mp h
    rw [List.cons_append, resolve_cons_of_child? hchild, ih hfollow, List.cons_append]

/-- Where names lead nowhere, a key that goes on behind them does not resolve. -/
theorem not_isResolved_of_follow?_eq_none (h : t.follow? names = none) (hrest : rest ≠ []) :
    (t.resolve rules (names ++ rest)).isResolved = false := by
  induction names generalizing t with
  | nil => simp [follow?] at h
  | cons name names ih =>
    rw [List.cons_append]
    cases hchild : t.child? name with
    | none =>
      rw [resolve_cons_of_ne_nil hchild (List.append_ne_nil_of_right_ne_nil _ hrest)]
      rfl
    | some child =>
      rw [follow?, hchild] at h
      rw [resolve_cons_of_child? hchild]
      exact ih h

/-! ### Complete and empty resolutions -/

theorem isResolved_resolve_singleton_iff :
    (t.resolve rules [name]).isResolved ↔
      (t.child? name).isSome ∨ (t.pluralChild? rules name).isSome := by
  cases hchild : t.child? name with
  | some child =>
    rw [resolve_cons_of_child? hchild]
    simp [resolve, Reference.isResolved]
  | none =>
    cases hplural : t.pluralChild? rules name with
    | none => simp [resolve_singleton_of_none hchild hplural, Reference.isResolved]
    | some child => simp [resolve_singleton_of_plural hchild hplural, Reference.isResolved]

/-- A key resolves completely exactly if its last segment is a child or a plural form below the node
that the others lead to. -/
theorem isResolved_resolve_iff :
    (t.resolve rules (names ++ [name])).isResolved ↔
      ∃ node, t.follow? names = some node ∧
        ((node.child? name).isSome ∨ (node.pluralChild? rules name).isSome) := by
  cases h : t.follow? names with
  | none =>
    rw [not_isResolved_of_follow?_eq_none h (List.cons_ne_nil name [])]
    simp
  | some node =>
    have hnode : (t.resolve rules (names ++ [name])).isResolved =
        (node.resolve rules [name]).isResolved := by
      rw [resolve_of_follow? h]
      rfl
    rw [hnode, isResolved_resolve_singleton_iff]
    simp

/-- Of a key with several segments nothing resolves exactly if the first one is no child. -/
theorem path_resolve_eq_nil_iff (hrest : rest ≠ []) :
    (t.resolve rules (name :: rest)).path = [] ↔ t.child? name = none := by
  cases hchild : t.child? name with
  | none => simp [resolve_cons_of_ne_nil hchild hrest]
  | some child => simp [resolve_cons_of_child? hchild]

/-! ### Completions -/

theorem remainder?_eq_some_iff : remainder? typed name = some more ↔ name = typed ++ more := by
  rw [← String.toList_inj, String.toList_append, remainder?]
  constructor
  · intro h
    by_cases hprefix : typed.toList.isPrefixOf name.toList
    · obtain ⟨rest, hrest⟩ := List.isPrefixOf_iff_prefix.mp hprefix
      rw [if_pos hprefix, ← hrest, List.drop_left, Option.some_inj] at h
      rw [← h, String.toList_ofList, hrest]
    · rw [if_neg hprefix] at h
      cases h
  · intro h
    rw [h, if_pos (List.isPrefixOf_iff_prefix.mpr (List.prefix_append ..)), List.drop_left,
      String.ofList_toList]

/-- Behind a prefix, the remainders of the children of its node are offered. -/
theorem mem_completions_iff :
    more ∈ t.completions rules names typed ↔
      ∃ node, t.find? rules names = some node ∧ typed ++ more ∈ node.childNames := by
  rw [completions]
  cases h : t.find? rules names with
  | none => simp
  | some node =>
    simp only [List.mem_filterMap, remainder?_eq_some_iff, Option.some_inj, exists_eq_left']
    constructor
    · rintro ⟨name, hname, rfl⟩
      exact hname
    · exact fun hname => ⟨_, hname, rfl⟩

/-- With a partly typed last segment, the children of the others are offered. -/
theorem mem_variants_iff :
    more ∈ t.variants rules (names ++ [typed]) true ↔
      ∃ node, t.find? rules names = some node ∧ typed ++ more ∈ node.childNames := by
  have hvariants : t.variants rules (names ++ [typed]) true = t.completions rules names typed := by
    simp [variants]
  rw [hvariants, mem_completions_iff]

end Tree

end MessageKeys
