import Mathlib.Data.List.Induction
import MessageKeys.Proofs.Report.Completion
import MessageKeys.Proofs.Resolve.LongestPrefix

/-!
# The list of completions

What can follow a partly typed key is listed once, in the order in which it is met in the documents
of the namespace and among the children there. Nothing is left out: the rest of every key that
resolves by the names of the children alone is listed.

A name that a document has repeatedly, and a name that several documents have, is met repeatedly;
only the first time counts.

## Main definitions

* `MessageKeys.Tree.namesBelow` — the names that a document has below a key.

## Main results

* `MessageKeys.idxOf_lt_idxOf_iff` — when an item of a list is met before another one.
* `MessageKeys.Catalog.complete_eq` — the list of completions as a list of names.
* `MessageKeys.Catalog.complete_listing` — what is listed, and in which order.
-/

namespace MessageKeys

/-! ### The order in which items are met -/

section Order

variable {α β : Type} [DecidableEq α] [DecidableEq β] {x y : α} {items : List α}

/-- An item is met before another one if some start of the list has neither, and the item itself
comes next. -/
theorem idxOf_lt_idxOf_iff :
    items.idxOf x < items.idxOf y ↔
      ∃ before after, items = before ++ x :: after ∧ x ∉ before ∧ y ∉ before ∧ x ≠ y := by
  constructor
  · intro hlt
    have hx : x ∈ items := List.idxOf_lt_length_iff.mp (hlt.trans_le List.idxOf_le_length)
    obtain ⟨before, after, rfl, hbefore⟩ := List.eq_append_cons_of_mem hx
    rw [List.idxOf_append, if_neg hbefore, List.idxOf_cons_self, Nat.zero_add] at hlt
    refine ⟨before, after, rfl, hbefore, fun hy => ?_, ?_⟩
    · rw [List.idxOf_append, if_pos hy] at hlt
      exact absurd hlt (Nat.not_lt.mpr List.idxOf_le_length)
    · rintro rfl
      rw [List.idxOf_append, if_neg hbefore, List.idxOf_cons_self, Nat.zero_add] at hlt
      exact lt_irrefl _ hlt
  · rintro ⟨before, after, rfl, hx, hy, hne⟩
    have hcons : (x :: after).idxOf y = after.idxOf y + 1 := by
      rw [List.idxOf_cons, beq_false_of_ne hne, cond_false]
    rw [List.idxOf_append, if_neg hx, List.idxOf_append, if_neg hy, List.idxOf_cons_self, hcons]
    omega

/-- Taking out what has been met already leaves each item once. -/
theorem nodup_eraseDups (items : List α) : items.eraseDups.Nodup := by
  induction items using List.reverseRecOn with
  | nil => exact List.nodup_nil
  | append_singleton items x ih =>
    rw [List.eraseDups_append, List.cons_removeAll]
    by_cases hx : x ∈ items
    · simpa [hx] using ih
    · rw [if_pos (by simpa using hx), List.eraseDups_cons]
      have hnew : ∀ y ∈ items, y ≠ x := fun y hy hyx => hx (hyx ▸ hy)
      simpa [List.nodup_append] using ⟨ih, hnew⟩

/-- Taking out what has been met already does not change the order. -/
theorem idxOf_eraseDups_lt (h : items.idxOf x < items.idxOf y) :
    items.eraseDups.idxOf x < items.eraseDups.idxOf y := by
  obtain ⟨before, after, rfl, hx, hy, hne⟩ := idxOf_lt_idxOf_iff.mp h
  have hsplit : (before ++ x :: after).eraseDups =
      before.eraseDups ++ x :: ((after.removeAll before).filter fun z => !z == x).eraseDups := by
    rw [List.eraseDups_append, List.cons_removeAll, if_pos (by simpa using hx),
      List.eraseDups_cons]
  refine idxOf_lt_idxOf_iff.mpr ⟨before.eraseDups, _, hsplit, ?_, ?_, hne⟩
  · exact mt List.mem_eraseDups.mp hx
  · exact mt List.mem_eraseDups.mp hy

/-- Items that are made from others, each from one only, are met in the order of those. -/
theorem idxOf_filterMap_lt {f : α → Option β} {u v : β} (hx : ∀ z, f z = some u ↔ z = x)
    (hy : ∀ z, f z = some v ↔ z = y) (h : items.idxOf x < items.idxOf y) :
    (items.filterMap f).idxOf u < (items.filterMap f).idxOf v := by
  obtain ⟨before, after, rfl, hxb, hyb, hne⟩ := idxOf_lt_idxOf_iff.mp h
  have hsplit : (before ++ x :: after).filterMap f =
      before.filterMap f ++ u :: after.filterMap f := by
    rw [List.filterMap_append, List.filterMap_cons_some ((hx x).mpr rfl)]
  have hnotMem {w : β} {z : α} (hw : ∀ z', f z' = some w ↔ z' = z) (hz : z ∉ before) :
      w ∉ before.filterMap f := by
    intro hmem
    obtain ⟨z', hz', hf⟩ := List.mem_filterMap.mp hmem
    exact hz ((hw z').mp hf ▸ hz')
  refine idxOf_lt_idxOf_iff.mpr ⟨_, _, hsplit, hnotMem hx hxb, hnotMem hy hyb, ?_⟩
  rintro rfl
  exact hne ((hy x).mp ((hx x).mpr rfl))

end Order

/-! ### The names below a key -/

namespace Tree

variable {rules : PluralRules} {t node : Tree} {fixed : List String} {name : String}

/-- The names of the children of a key, if it resolves completely. -/
def namesBelow (rules : PluralRules) (t : Tree) (key : List String) : List String :=
  match t.find? rules key with
  | some node => node.childNames
  | none => []

theorem completions_eq (rules : PluralRules) (t : Tree) (key : List String) (typed : String) :
    t.completions rules key typed = (t.namesBelow rules key).filterMap (remainder? typed) := by
  rw [completions, namesBelow]
  cases t.find? rules key <;> rfl

theorem find?_of_follow? (h : t.follow? fixed = some node) : t.find? rules fixed = some node := by
  rw [find?, resolve_of_whole h]
  rfl

/-- A key that resolves without a plural form has its last segment as a child of the others. -/
theorem exists_find?_of_isResolved
    (hr : (t.resolve rules (fixed ++ [name])).isResolved)
    (hplural : (t.resolve rules (fixed ++ [name])).isPlural = false) :
    ∃ node, t.find? rules fixed = some node ∧ name ∈ node.childNames := by
  have hfollow := (ends_resolve rules t (fixed ++ [name])).follow?_path hplural
  rw [path_resolve_eq_of_isResolved hr, follow?_append] at hfollow
  obtain ⟨node, hnode, hlast⟩ := Option.bind_eq_some_iff.mp hfollow
  obtain ⟨child, hchild, -⟩ := Option.bind_eq_some_iff.mp hlast
  exact ⟨node, find?_of_follow? hnode, isSome_child?_iff.mp (Option.isSome_of_eq_some hchild)⟩

end Tree

/-! ### The list -/

namespace Catalog

variable {catalog : Catalog} {config : Config} {typed last : String} {fixed : List String}

/-- The completions are the names below all segments but the last one, in the order in which they
are met, as far as they start with the last one. -/
theorem complete_eq
    (hsegments : (Key.parseLiteral config.separators typed).segments = fixed ++ [last]) :
    catalog.complete config typed =
      (((catalog.candidates (config.namespaceOf (Key.parseLiteral config.separators typed))).flatMap
        fun d => d.tree.namesBelow config.pluralRules fixed).filterMap
          (Tree.remainder? last)).eraseDups := by
  have hvariants (t : Tree) : t.variants config.pluralRules (fixed ++ [last]) true =
      (t.namesBelow config.pluralRules fixed).filterMap (Tree.remainder? last) := by
    rw [← Tree.completions_eq]
    simp [Tree.variants]
  rw [complete, variants, hsegments, List.filterMap_flatMap, ← List.flatMap_def]
  simp only [hvariants]

/-- **The list of completions.** Let the last segment of a key be partly typed. Whenever some
document of the namespace resolves the key with a longer last segment by the names of the children
alone, what is to be typed is listed. Nothing is listed twice; all that is listed is what is left of
the name of a child of the other segments in some document, behind what is typed; and it is listed
in the order in which these names are first met in the documents, in the order of the catalog, and
among the children there. -/
theorem complete_listing (catalog : Catalog) (config : Config) (typed : String) :
    let k := Key.parseLiteral config.separators typed
    let documents := catalog.candidates (config.namespaceOf k)
    let listed := catalog.complete config typed
    ∃ fixed last, k.segments = fixed ++ [last] ∧
      (∀ more, ∀ d ∈ documents,
        (d.tree.resolve config.pluralRules (fixed ++ [last ++ more])).isResolved →
        (d.tree.resolve config.pluralRules (fixed ++ [last ++ more])).isPlural = false →
          more ∈ listed) ∧
      listed.Nodup ∧
      (∀ more ∈ listed, ∃ d ∈ documents, ∃ node,
        d.tree.find? config.pluralRules fixed = some node ∧ last ++ more ∈ node.childNames) ∧
      let names := documents.flatMap fun d => d.tree.namesBelow config.pluralRules fixed
      ∀ more other, names.idxOf (last ++ more) < names.idxOf (last ++ other) →
        listed.idxOf more < listed.idxOf other := by
  intro k documents listed
  have hpath : k.path ≠ [] := Key.path_parse_ne_nil config.separators [.literal typed]
  have hnil : k.segments ≠ [] := mt List.map_eq_nil_iff.mp hpath
  obtain ⟨fixed, last, hsegments⟩ : ∃ fixed last, k.segments = fixed ++ [last] :=
    ⟨_, _, (List.dropLast_concat_getLast hnil).symm⟩
  have hmem (more : String) : more ∈ listed ↔ ∃ d ∈ documents, ∃ node,
      d.tree.find? config.pluralRules fixed = some node ∧ last ++ more ∈ node.childNames :=
    mem_complete_iff hsegments
  have hlisted : listed = _ := complete_eq hsegments
  refine ⟨fixed, last, hsegments, ?_, ?_, fun more => (hmem more).mp, ?_⟩
  · intro more d hd hr hplural
    exact (hmem more).mpr ⟨d, hd, Tree.exists_find?_of_isResolved hr hplural⟩
  · exact nodup_eraseDups _
  · intro names more other hlt
    rw [hlisted]
    exact idxOf_eraseDups_lt (idxOf_filterMap_lt (fun _ => Tree.remainder?_eq_some_iff)
      (fun _ => Tree.remainder?_eq_some_iff) hlt)

/-- The second document has a name of the first one before a new one. -/
example :
    let document (locale : String) (names : List String) : Document :=
      ⟨⟨[locale, "common.json"]⟩, "common", some locale,
        .json (.object [("cart", .object (names.map fun name => (name, .null)))])⟩
    (ofDocuments [document "de" ["item", "total"], document "en" ["total", "tax"]]).complete
      .default "common:cart.t" = ["otal", "ax"] := by
  decide +kernel

end Catalog

end MessageKeys
