import Mathlib.Data.List.Perm.Basic
import MessageKeys.Document.Catalog
import MessageKeys.Proofs.Text.Sorting

/-!
# The namespaces of a catalog

The documents of a catalog fall apart into those of each of its namespaces: every document has its
place in one of these lists, and none of them is empty.

## Main results

* `MessageKeys.Catalog.pairwise_namespaces` — the namespaces are in strict order.
* `MessageKeys.Catalog.mem_namespaces_iff` — they are those that have documents.
* `MessageKeys.Catalog.flatMap_candidates_perm` — the documents of all of them are all documents.
-/

namespace MessageKeys

/-- Items apart by their keys: together they are the items with one of the keys. -/
theorem flatMap_filter_perm {α : Type} (key : α → String) (l : List α) {keys : List String}
    (h : keys.Nodup) :
    (keys.flatMap fun k => l.filter fun x => key x == k).Perm
      (l.filter fun x => decide (key x ∈ keys)) := by
  induction keys with
  | nil => simp
  | cons k keys ih =>
    obtain ⟨hk, hkeys⟩ := List.nodup_cons.mp h
    let those := l.filter fun x => decide (key x ∈ k :: keys)
    have hfirst : those.filter (fun x => key x == k) = l.filter fun x => key x == k := by
      rw [List.filter_filter]
      refine List.filter_congr fun x _ => ?_
      by_cases hx : key x = k <;> simp [hx]
    have hothers : those.filter (fun x => !(key x == k)) =
        l.filter fun x => decide (key x ∈ keys) := by
      rw [List.filter_filter]
      refine List.filter_congr fun x _ => ?_
      by_cases hx : key x = k <;> simp [hx, hk]
    rw [List.flatMap_cons]
    refine ((ih hkeys).append_left _).trans ?_
    rw [← hfirst, ← hothers]
    exact List.filter_append_perm _ _

namespace Catalog

variable (catalog : Catalog) {ns : String}

@[simp] theorem mem_candidates_iff {d : Document} :
    d ∈ catalog.candidates ns ↔ d ∈ catalog.documents ∧ d.ns = ns := by
  simp [candidates]

theorem candidates_sublist (ns : String) : (catalog.candidates ns).Sublist catalog.documents :=
  List.filter_sublist

/-- The namespaces are in alphabetical order, each of them once. -/
theorem pairwise_namespaces : catalog.namespaces.Pairwise (· < ·) :=
  pairwise_eraseReps (pairwise_mergeSort_le id _)

theorem mem_namespaces_iff_exists :
    ns ∈ catalog.namespaces ↔ ∃ d ∈ catalog.documents, d.ns = ns := by
  simp [namespaces]

/-- The namespaces are those that have documents. -/
theorem mem_namespaces_iff : ns ∈ catalog.namespaces ↔ catalog.candidates ns ≠ [] := by
  rw [mem_namespaces_iff_exists, candidates, ne_eq, List.filter_eq_nil_iff]
  simp

/-- Every document is among those of one namespace, and has one place there. -/
theorem flatMap_candidates_perm :
    (catalog.namespaces.flatMap catalog.candidates).Perm catalog.documents := by
  have hnodup : catalog.namespaces.Nodup := catalog.pairwise_namespaces.imp ne_of_lt
  have hall : (catalog.documents.filter fun d => decide (d.ns ∈ catalog.namespaces)) =
      catalog.documents :=
    List.filter_eq_self.mpr fun d hd =>
      decide_eq_true (catalog.mem_namespaces_iff_exists.mpr ⟨d, hd, rfl⟩)
  have hperm := flatMap_filter_perm Document.ns catalog.documents hnodup
  rwa [hall] at hperm

end Catalog

end MessageKeys
