import Mathlib.Data.List.Forall2
import MessageKeys.Proofs.Report.Verdict
import MessageKeys.Proofs.Resolve.LongestPrefix

/-!
# Documents that are extended

Translators add messages to a document and documents to a catalog. A tree extends another one if it
has the branches and the names of the other, with trees that extend those of the other under them;
a leaf may become anything. A key then goes at least as far as before. The plural form that a
segment stood for may be overtaken by a child with its own name, but the segment still resolves.

So a key that was no error does not become one, with one exception: a key of which nothing resolved
may have been passed over for that reason, and is not passed over any more when a part of it
resolves.

## Main definitions

* `MessageKeys.Tree.Extends` — a tree has the branches and the names of another one.

## Main results

* `MessageKeys.Tree.Extends.path_prefix` — a key goes at least as far in an extended tree.
* `MessageKeys.Catalog.reportOn_of_extends` — what becomes of a report when documents are extended
  and others are added.
-/

namespace MessageKeys

namespace Tree

variable {rules : PluralRules} {t t' node child : Tree} {name : String} {key names : List String}

/-! ### Extended trees -/

theorem sizeOf_lt_of_child? {children : List (String × Tree)}
    (h : (branch children).child? name = some child) :
    sizeOf child < sizeOf (branch children) := by
  have hlt := List.sizeOf_lt_of_mem (mem_children_of_child? h)
  simp only [children_branch, Prod.mk.sizeOf_spec, branch.sizeOf_spec] at hlt ⊢
  omega

/-- Whether a tree extends another one: where that is a branch, it is a branch too, and under each
name of a child of the other it has a child that extends it. -/
def Extends : Tree → Tree → Prop
  | _, leaf _ => True
  | t', branch children =>
    t'.isBranch ∧ ∀ name child, (h : (branch children).child? name = some child) →
      ∃ child', t'.child? name = some child' ∧ child'.Extends child
termination_by _ t => sizeOf t
decreasing_by exact sizeOf_lt_of_child? h

theorem extends_leaf (t' : Tree) (value? : Option String) : t'.Extends (leaf value?) := by
  rw [Extends]
  trivial

theorem extends_branch_iff {children : List (String × Tree)} :
    t'.Extends (branch children) ↔
      t'.isBranch ∧ ∀ name child, (branch children).child? name = some child →
        ∃ child', t'.child? name = some child' ∧ child'.Extends child := by
  rw [Extends]

/-- A branch extends another one if it has a child that extends each entry of the other, also of
those that are not found because their names stand there before. -/
theorem extends_branch_of_forall_mem {children children' : List (String × Tree)}
    (h : ∀ entry ∈ children, ∃ child', (branch children').child? entry.1 = some child' ∧
      child'.Extends entry.2) : (branch children').Extends (branch children) := by
  refine extends_branch_iff.mpr ⟨rfl, fun name child hchild => ?_⟩
  exact h (name, child) (mem_children_of_child? hchild)

/-- Under each name of a child there is a child that extends it. -/
theorem Extends.exists_child? (h : t'.Extends t) (hchild : t.child? name = some child) :
    ∃ child', t'.child? name = some child' ∧ child'.Extends child := by
  cases t with
  | leaf value? => cases hchild
  | branch children => exact (extends_branch_iff.mp h).2 name child hchild

theorem Extends.isSome_child? (h : t'.Extends t) (hchild : (t.child? name).isSome) :
    (t'.child? name).isSome := by
  obtain ⟨child, hchild⟩ := Option.isSome_iff_exists.mp hchild
  obtain ⟨child', hchild', -⟩ := h.exists_child? hchild
  exact Option.isSome_of_eq_some hchild'

/-- A segment that has a plural form keeps one. -/
theorem Extends.isSome_pluralChild? (h : t'.Extends t)
    (hplural : (t.pluralChild? rules name).isSome) : (t'.pluralChild? rules name).isSome := by
  obtain ⟨hseparator, variant, hvariant, hchild⟩ := isSome_pluralChild?_iff.mp hplural
  exact isSome_pluralChild?_iff.mpr ⟨hseparator, variant, hvariant, h.isSome_child? hchild⟩

/-! ### Keys in extended trees -/

/-- Names that lead to a node lead to one that extends it. -/
theorem Extends.exists_follow? (h : t'.Extends t) (hfollow : t.follow? names = some node) :
    ∃ node', t'.follow? names = some node' ∧ node'.Extends node := by
  induction names generalizing t t' with
  | nil =>
    obtain rfl : t = node := Option.some_inj.mp hfollow
    exact ⟨t', rfl, h⟩
  | cons name names ih =>
    obtain ⟨child, hchild, hbelow⟩ := Option.bind_eq_some_iff.mp hfollow
    obtain ⟨child', hchild', hextends⟩ := h.exists_child? hchild
    obtain ⟨node', hnode', hnode⟩ := ih hextends hbelow
    exact ⟨node', by rw [follow?, hchild', Option.bind_some, hnode'], hnode⟩

theorem Extends.isSome_follow? (h : t'.Extends t) (hfollow : t.follow? names = some node) :
    (t'.follow? names).isSome := by
  obtain ⟨node', hnode', -⟩ := h.exists_follow? hfollow
  exact Option.isSome_of_eq_some hnode'

/-- A key that resolves by a plural form still resolves: by a plural form, which may be another
one, or by a child with the name of its last segment. -/
theorem Extends.isResolved_of_plural (h : t'.Extends t) (hfollow : t.follow? names = some node)
    (hplural : node.pluralChild? rules name = some child) :
    (t'.resolve rules (names ++ [name])).isResolved := by
  obtain ⟨node', hnode', hnode⟩ := h.exists_follow? hfollow
  have hform := hnode.isSome_pluralChild? (Option.isSome_of_eq_some hplural)
  exact isResolved_resolve_iff.mpr ⟨node', hnode', .inr hform⟩

/-- A key goes at least as far in an extended tree. -/
theorem Extends.path_prefix (h : t'.Extends t) (rules : PluralRules) (key : List String) :
    (t.resolve rules key).path <+: (t'.resolve rules key).path := by
  have hends' := ends_resolve rules t' key
  have hends := ends_resolve rules t key
  generalize t.resolve rules key = r at hends ⊢
  cases hends with
  | whole names node hfollow =>
    exact hends'.prefix_path List.prefix_rfl (h.isSome_follow? hfollow)
  | plural names name node child hfollow hchild hplural =>
    rewrite [path_resolve_eq_of_isResolved (h.isResolved_of_plural hfollow hplural)]
    exact List.prefix_rfl
  | stuck names name rest node hfollow hchild hplural =>
    exact hends'.prefix_path (List.prefix_append ..) (h.isSome_follow? hfollow)

/-- A key that resolves completely still does in an extended tree. -/
theorem Extends.isResolved (h : t'.Extends t) (hr : (t.resolve rules key).isResolved) :
    (t'.resolve rules key).isResolved := by
  have hprefix := h.path_prefix rules key
  rw [path_resolve_eq_of_isResolved hr] at hprefix
  have hkey : (t'.resolve rules key).IsOf key := path_append_unresolved rules t' key
  exact hkey.isResolved_iff.mpr hprefix.length_le

end Tree

/-! ### Reports on extended documents -/

/-- If the items of a list are replaced by partners and others are put between them, each has a
partner among the new ones. -/
theorem exists_mem_of_sublistForall₂ {α β : Type} {R : α → β → Prop} {xs : List α} {ys : List β}
    (h : List.SublistForall₂ R xs ys) {x : α} (hx : x ∈ xs) : ∃ y ∈ ys, R x y := by
  induction h with
  | nil => cases hx
  | cons hxy _ ih =>
    rcases List.mem_cons.mp hx with rfl | hx
    · exact ⟨_, List.mem_cons_self, hxy⟩
    · obtain ⟨y, hy, hR⟩ := ih hx
      exact ⟨y, List.mem_cons_of_mem _ hy, hR⟩
  | cons_right _ ih =>
    obtain ⟨y, hy, hR⟩ := ih hx
    exact ⟨y, List.mem_cons_of_mem _ hy, hR⟩

namespace Catalog

/-- A key that no document resolves is passed over or unresolved. -/
theorem status_reportOn_of_forall_not_isResolved (catalog : Catalog) (config : Config)
    (fragments : List Fragment) :
    let k := Key.parse config.separators fragments
    let documents := catalog.candidates (config.namespaceOf k)
    documents ≠ [] →
    (∀ d ∈ documents, (d.tree.resolve config.pluralRules k.segments).isResolved = false) →
    (catalog.reportOn config fragments).status =
      if k.hasNamespace = false ∧ config.suppressUnresolvedDefaultNs = true ∧
          ∀ d ∈ documents, (d.tree.resolve config.pluralRules k.segments).path = [] then
        .suppressed
      else .unresolved := by
  intro k documents hnil hall
  have hstatus := Key.statusIn_of_forall_not_isResolved config.suppressUnresolvedDefaultNs
    (isOf_of_mem_lookUp catalog config k) (mt List.map_eq_nil_iff.mp hnil)
    (List.forall_mem_map.mpr hall)
  simp only [lookUp, List.forall_mem_map] at hstatus
  exact hstatus

/-- **Extended documents.** A key goes at least as far in a tree that extends another one. So if
documents of its namespace are replaced by others that extend them, and more documents are put
anywhere between them, a key that was not reported as an error is none now either, unless it was
passed over and is unresolved now. -/
theorem reportOn_of_extends :
    (∀ (rules : PluralRules) (t t' : Tree) (key : List String), t'.Extends t →
      (t.resolve rules key).path <+: (t'.resolve rules key).path) ∧
    ∀ (catalog extended : Catalog) (config : Config) (fragments : List Fragment),
      let ns := config.namespaceOf (Key.parse config.separators fragments)
      List.SublistForall₂ (fun d d' : Document => d'.tree.Extends d.tree)
        (catalog.candidates ns) (extended.candidates ns) →
      (catalog.reportOn config fragments).severity? ≠ some .error →
      (extended.reportOn config fragments).severity? ≠ some .error ∨
        (catalog.reportOn config fragments).status = .suppressed ∧
          (extended.reportOn config fragments).status = .unresolved := by
  refine ⟨fun rules t t' key h => h.path_prefix rules key, ?_⟩
  intro catalog extended config fragments ns hextends hbefore
  have herror := severity?_reportOn_eq_error_iff catalog config fragments
  have herror' := severity?_reportOn_eq_error_iff extended config fragments
  obtain ⟨hnil, hpassed⟩ := not_or.mp (mt herror.mpr hbefore)
  obtain ⟨d, hd⟩ := List.exists_mem_of_ne_nil _ hnil
  obtain ⟨d', hd', -⟩ := exists_mem_of_sublistForall₂ hextends hd
  have hnil' := List.ne_nil_of_mem hd'
  by_cases hafter : (extended.reportOn config fragments).severity? = some .error
  · right
    obtain ⟨hnone', hreported⟩ := (herror'.mp hafter).resolve_left hnil'
    -- A document that resolved the key would have a partner that still does.
    have hnone : ∀ d ∈ catalog.candidates ns, (d.tree.resolve config.pluralRules
        (Key.parse config.separators fragments).segments).isResolved = false := by
      intro d hd
      obtain ⟨d', hd', htree⟩ := exists_mem_of_sublistForall₂ hextends hd
      exact Bool.eq_false_iff.mpr fun hr =>
        Bool.eq_false_iff.mp (hnone' d' hd') (htree.isResolved hr)
    have hsuppressed := not_not.mp fun h => hpassed ⟨hnone, h⟩
    constructor
    · rw [status_reportOn_of_forall_not_isResolved catalog config fragments hnil hnone]
      exact if_pos hsuppressed
    · rw [status_reportOn_of_forall_not_isResolved extended config fragments hnil' hnone']
      exact if_neg hreported
  · exact .inl hafter

/-- The plural form is overtaken by a child with the name of the segment, and a document that lacks
both is put before: the key, which resolved by the plural form, is still no error. -/
theorem reportOn_of_extends_overtaken :
    let value : Json := .object [("cart", .object [("item_one", .string "One")])]
    let value' : Json := .object [("cart", .object [("item", .string "Item"), ("item_one", .null)])]
    let document (locale : String) (value : Json) : Document :=
      ⟨⟨[locale, "common.json"]⟩, "common", some locale, .json value⟩
    let catalog := ofDocuments [document "en" value]
    let extended := ofDocuments [document "de" (.object []), document "en" value']
    let fragments := [Fragment.literal "common:cart.item"]
    (catalog.reportOn .default fragments).status = .pluralReference ∧
      value'.tree.Extends value.tree ∧
      (value.tree.resolve .default ["cart", "item"]).path <+:
        (value'.tree.resolve .default ["cart", "item"]).path ∧
      (extended.reportOn .default fragments).severity? ≠ some .error := by
  intro value value' document catalog extended fragments
  have hstatus : (catalog.reportOn .default fragments).status = .pluralReference := by
    decide +kernel
  have htree : value'.tree.Extends value.tree := by
    refine Tree.extends_branch_of_forall_mem (List.forall_mem_singleton.mpr ⟨_, rfl, ?_⟩)
    refine Tree.extends_branch_of_forall_mem (List.forall_mem_singleton.mpr ⟨_, rfl, ?_⟩)
    exact Tree.extends_leaf ..
  have hextends : List.SublistForall₂ (fun d d' : Document => d'.tree.Extends d.tree)
      [document "en" value] [document "de" (.object []), document "en" value'] :=
    .cons_right (.cons htree .nil)
  have hns : Config.default.namespaceOf (Key.parse Config.default.separators fragments) =
      "common" := by
    decide +kernel
  obtain ⟨hpath, hreport⟩ := reportOn_of_extends
  have h := hreport catalog extended .default fragments
  rw [hns] at h
  refine ⟨hstatus, htree, hpath _ _ _ _ htree, ?_⟩
  rcases h hextends (by rw [KeyReport.severity?, hstatus]; decide) with h | ⟨h, -⟩
  · exact h
  · rw [hstatus] at h
    cases h

/-- Nothing of the key resolves until a translator adds its first segment. -/
example :
    let document (value : Json) : Document :=
      ⟨⟨["translation.json"]⟩, "translation", none, .json value⟩
    let config : Config := { suppressUnresolvedDefaultNs := true }
    let status (value : Json) :=
      ((ofDocuments [document value]).reportOn config [.literal "cart.item"]).status
    status (.object []) = .suppressed ∧
      status (.object [("cart", .object [])]) = .unresolved := by
  decide +kernel

end Catalog

end MessageKeys
