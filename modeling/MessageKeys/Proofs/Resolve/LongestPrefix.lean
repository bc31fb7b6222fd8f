import MessageKeys.Proofs.Resolve.Reference

/-!
# The longest prefix that exists

Following a key ends in one of three ways: all of it leads to a node by the names of the children;
or all but its last segment does, and that one has plural forms only; or some segment is missing,
and the key is stuck at the node before it. In each of them the path that resolved is the longest
prefix of the key that exists.

## Main definitions

* `MessageKeys.Tree.Ends` — the three ways in which following a key can end, without recursion.

## Main results

* `MessageKeys.Tree.pluralChild?_eq_some_iff` — which plural form stands for a segment.
* `MessageKeys.Tree.ends_resolve` — the reference of a key is a way in which it ends.
* `MessageKeys.Tree.resolve_longest_prefix` — what the reference of a key says about the document.
-/

namespace MessageKeys

namespace Tree

variable {rules : PluralRules} {t node child : Tree} {name : String}
  {key names more rest : List String} {r : Reference}

/-! ### Plural forms -/

theorem findSome?_names (rules : PluralRules) (name : String) (f : String → Option Tree) :
    (rules.names name).findSome? f =
      if rules.separator = "" then none
      else rules.variants.findSome? fun variant => f (name ++ rules.separator ++ variant) := by
  rw [PluralRules.names]
  by_cases hseparator : rules.separator = ""
  · simp [hseparator]
  · simp [hseparator, List.findSome?_map, Function.comp_def]

/-- A segment has plural forms only if they have a separator; it stands for the form of the earliest
variant that has one. -/
theorem pluralChild?_eq_some_iff :
    t.pluralChild? rules name = some child ↔
      rules.separator ≠ "" ∧ ∃ before variant after,
        rules.variants = before ++ variant :: after ∧
          t.child? (name ++ rules.separator ++ variant) = some child ∧
          ∀ earlier ∈ before, t.child? (name ++ rules.separator ++ earlier) = none := by
  rw [pluralChild?, findSome?_names]
  by_cases hseparator : rules.separator = ""
  · simp [hseparator]
  · rw [if_neg hseparator, List.findSome?_eq_some_iff]
    exact ⟨fun h => ⟨hseparator, h⟩, fun h => h.2⟩

theorem pluralChild?_eq_none_iff :
    t.pluralChild? rules name = none ↔
      rules.separator ≠ "" →
        ∀ variant ∈ rules.variants, t.child? (name ++ rules.separator ++ variant) = none := by
  rw [pluralChild?, findSome?_names]
  by_cases hseparator : rules.separator = ""
  · simp [hseparator]
  · simp [hseparator, List.findSome?_eq_none_iff]

theorem isSome_pluralChild?_iff :
    (t.pluralChild? rules name).isSome ↔
      rules.separator ≠ "" ∧
        ∃ variant ∈ rules.variants, (t.child? (name ++ rules.separator ++ variant)).isSome := by
  rw [← Option.ne_none_iff_isSome, Ne, pluralChild?_eq_none_iff]
  simp [Option.isSome_iff_ne_none]

/-! ### How following a key ends -/

theorem follow?_append (t : Tree) (names more : List String) :
    t.follow? (names ++ more) = (t.follow? names).bind fun node => node.follow? more := by
  induction names generalizing t with
  | nil => rfl
  | cons name names ih =>
    rw [List.cons_append, follow?, follow?, Option.bind_assoc]
    exact Option.bind_congr fun child _ => ih child

/-- The ways in which following a key can end. -/
inductive Ends (rules : PluralRules) (t : Tree) : List String → Reference → Prop
  /-- The names lead to a node. -/
  | whole (names : List String) (node : Tree) (hfollow : t.follow? names = some node) :
      Ends rules t names ⟨names, node, [], false⟩
  /-- The last segment is missing but has plural forms. -/
  | plural (names : List String) (name : String) (node child : Tree)
      (hfollow : t.follow? names = some node) (hchild : node.child? name = none)
      (hplural : node.pluralChild? rules name = some child) :
      Ends rules t (names ++ [name]) ⟨names ++ [name], child, [], true⟩
  /-- A segment is missing; if it is the last one, it has no plural forms either. -/
  | stuck (names : List String) (name : String) (rest : List String) (node : Tree)
      (hfollow : t.follow? names = some node) (hchild : node.child? name = none)
      (hplural : rest = [] → node.pluralChild? rules name = none) :
      Ends rules t (names ++ name :: rest) ⟨names, node, name :: rest, false⟩

/-- A key ends below a child as the rest of it ends from there. -/
theorem Ends.cons (hchild : t.child? name = some child) (h : child.Ends rules rest r) :
    t.Ends rules (name :: rest) { r with path := name :: r.path } := by
  have hfollow (names : List String) : t.follow? (name :: names) = child.follow? names := by
    rw [follow?, hchild, Option.bind_some]
  cases h with
  | whole _ node h => exact .whole (name :: rest) node ((hfollow _).trans h)
  | plural names last node form h hlast hplural =>
    exact .plural (name :: names) last node form ((hfollow _).trans h) hlast hplural
  | stuck names missing rest node h hmissing hplural =>
    exact .stuck (name :: names) missing rest node ((hfollow _).trans h) hmissing hplural

/-- The reference of a key is a way in which it ends. -/
theorem ends_resolve (rules : PluralRules) (t : Tree) (key : List String) :
    t.Ends rules key (t.resolve rules key) := by
  induction key generalizing t with
  | nil => exact .whole [] t rfl
  | cons name rest ih =>
    cases hchild : t.child? name with
    | some child =>
      rw [resolve_cons_of_child? hchild]
      exact (ih child).cons hchild
    | none =>
      by_cases hrest : rest = []
      · subst hrest
        cases hplural : t.pluralChild? rules name with
        | none =>
          rw [resolve_singleton_of_none hchild hplural]
          exact .stuck [] name [] t rfl hchild fun _ => hplural
        | some child =>
          rw [resolve_singleton_of_plural hchild hplural]
          exact .plural [] name t child rfl hchild hplural
      · rw [resolve_cons_of_ne_nil hchild hrest]
        exact .stuck [] name rest t rfl hchild fun hnil => absurd hnil hrest

theorem resolve_of_whole (h : t.follow? names = some node) :
    t.resolve rules names = ⟨names, node, [], false⟩ := by
  have hnil : t.resolve rules (names ++ []) = _ := resolve_of_follow? h []
  rwa [List.append_nil, resolve, List.append_nil] at hnil

theorem resolve_of_plural (h : t.follow? names = some node) (hchild : node.child? name = none)
    (hplural : node.pluralChild? rules name = some child) :
    t.resolve rules (names ++ [name]) = ⟨names ++ [name], child, [], true⟩ := by
  rw [resolve_of_follow? h, resolve_singleton_of_plural hchild hplural]

theorem resolve_of_stuck (h : t.follow? names = some node) (hchild : node.child? name = none)
    (hplural : rest = [] → node.pluralChild? rules name = none) :
    t.resolve rules (names ++ name :: rest) = ⟨names, node, name :: rest, false⟩ := by
  rw [resolve_of_follow? h]
  by_cases hrest : rest = []
  · subst hrest
    rw [resolve_singleton_of_none hchild (hplural rfl), List.append_nil]
  · rw [resolve_cons_of_ne_nil hchild hrest, List.append_nil]

/-! ### What a reference says -/

/-- Without a plural form the path leads to the node. -/
theorem Ends.follow?_path (h : t.Ends rules key r) (hr : r.isPlural = false) :
    t.follow? r.path = some r.node := by
  cases h with
  | whole _ _ h => exact h
  | plural => cases hr
  | stuck _ _ _ _ h => exact h

/-- Names at the start of a key that lead to a node are a part of its path. -/
theorem Ends.prefix_path (h : t.Ends rules key r) (hnames : names <+: key)
    (hfollow : (t.follow? names).isSome) : names <+: r.path := by
  cases h with
  | whole => exact hnames
  | plural => exact hnames
  | stuck path missing rest node h hmissing =>
    rcases List.prefix_or_prefix_of_prefix hnames (List.prefix_append path _) with hle | hle
    · exact hle
    · -- Names that go on behind the path would lead through the missing segment.
      obtain ⟨more, rfl⟩ := hle
      cases more with
      | nil => simp
      | cons name more =>
        have hname := (List.prefix_append_right_inj path).mp hnames
        obtain ⟨rfl, -⟩ := List.cons_prefix_cons.mp hname
        rw [follow?_append, h, Option.bind_some, follow?, hmissing] at hfollow
        cases hfollow

/-- The first segment that did not resolve is no child of the node. -/
theorem Ends.missing (h : t.Ends rules key r) (hr : r.unresolved = name :: rest) :
    r.node.child? name = none ∧ (rest = [] → r.node.pluralChild? rules name = none) := by
  cases h with
  | whole => cases hr
  | plural => cases hr
  | stuck _ _ _ _ _ hchild hplural =>
    obtain ⟨rfl, rfl⟩ := List.cons.inj hr
    exact ⟨hchild, hplural⟩

/-- If a plural form is taken, it stands for the last segment, and nothing is left. -/
theorem Ends.exists_plural (h : t.Ends rules key r) (hr : r.isPlural) :
    r.unresolved = [] ∧ ∃ names name node, key = names ++ [name] ∧ t.follow? names = some node ∧
      node.child? name = none ∧ node.pluralChild? rules name = some r.node := by
  cases h with
  | whole => cases hr
  | plural names name node _ h hchild hplural =>
    exact ⟨rfl, names, name, node, rfl, h, hchild, hplural⟩
  | stuck => cases hr

/-- A plural form is taken exactly if the last segment is the only one missing and has one. -/
theorem isPlural_resolve_iff :
    (t.resolve rules key).isPlural ↔
      ∃ names name node, key = names ++ [name] ∧ t.follow? names = some node ∧
        node.child? name = none ∧ (node.pluralChild? rules name).isSome := by
  constructor
  · intro hr
    obtain ⟨-, names, name, node, hkey, h, hchild, hplural⟩ :=
      (ends_resolve rules t key).exists_plural hr
    exact ⟨names, name, node, hkey, h, hchild, Option.isSome_of_eq_some hplural⟩
  · rintro ⟨names, name, node, rfl, h, hchild, hplural⟩
    obtain ⟨child, hplural⟩ := Option.isSome_iff_exists.mp hplural
    rw [resolve_of_plural h hchild hplural]

/-- The path of a key resolves as a part of the key. -/
theorem Ends.resolve_path (h : t.Ends rules key r) :
    t.resolve rules r.path = ⟨r.path, r.node, [], r.isPlural⟩ := by
  cases h with
  | whole _ _ h => exact resolve_of_whole h
  | plural _ _ _ _ h hchild hplural => exact resolve_of_plural h hchild hplural
  | stuck _ _ _ _ h => exact resolve_of_whole h

/-- **The longest prefix.** The reference of a key divides it into the longest prefix that exists
and the rest. Without a plural form, the names of the prefix lead to the node; the first name of the
rest is no child of it, and if it is the last one, it has no plural form there. A plural form is
taken exactly if all but the last segment lead to a node that lacks the last one but has a plural
form of it; then it is the one of the earliest variant, and nothing is left. The prefix itself
resolves to the same node in the same way. -/
theorem resolve_longest_prefix (rules : PluralRules) (t : Tree) (key : List String) :
    let r := t.resolve rules key
    r.path ++ r.unresolved = key ∧
    (r.isPlural = false → t.follow? r.path = some r.node) ∧
    (∀ names, names <+: key → (t.follow? names).isSome → names <+: r.path) ∧
    (∀ name rest, r.unresolved = name :: rest →
      r.node.child? name = none ∧
        (rest = [] → rules.separator ≠ "" →
          ∀ variant ∈ rules.variants,
            r.node.child? (name ++ rules.separator ++ variant) = none)) ∧
    (r.isPlural ↔
      ∃ names name node, key = names ++ [name] ∧ t.follow? names = some node ∧
        node.child? name = none ∧ rules.separator ≠ "" ∧
          ∃ variant ∈ rules.variants,
            (node.child? (name ++ rules.separator ++ variant)).isSome) ∧
    (r.isPlural →
      r.unresolved = [] ∧
        ∃ names name node before variant after, key = names ++ [name] ∧
          t.follow? names = some node ∧ rules.variants = before ++ variant :: after ∧
          node.child? (name ++ rules.separator ++ variant) = some r.node ∧
          ∀ earlier ∈ before, node.child? (name ++ rules.separator ++ earlier) = none) ∧
    t.resolve rules r.path = ⟨r.path, r.node, [], r.isPlural⟩ := by
  intro r
  have h : t.Ends rules key r := ends_resolve rules t key
  refine ⟨path_append_unresolved rules t key, h.follow?_path, fun names => h.prefix_path,
    ?_, ?_, ?_, h.resolve_path⟩
  · intro name rest hr
    obtain ⟨hchild, hplural⟩ := h.missing hr
    exact ⟨hchild, fun hrest => pluralChild?_eq_none_iff.mp (hplural hrest)⟩
  · simp only [r, isPlural_resolve_iff, isSome_pluralChild?_iff]
  · intro hr
    obtain ⟨hnil, names, name, node, hkey, hfollow, -, hplural⟩ := h.exists_plural hr
    obtain ⟨-, before, variant, after, hvariants, hform, hearlier⟩ :=
      pluralChild?_eq_some_iff.mp hplural
    exact ⟨hnil, names, name, node, before, variant, after, hkey, hfollow, hvariants, hform,
      hearlier⟩

end Tree

end MessageKeys
