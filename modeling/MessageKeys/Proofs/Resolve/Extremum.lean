import MessageKeys.Proofs.Resolve.Reference
import MessageKeys.Proofs.Resolve.Selection

/-!
# Selection from several lists

The item that is selected from two lists, one behind the other, is the one that is selected from the
two that are selected from each. An item behind the others therefore changes the choice only if it
is better than all of them. The most resolved reference is selected by the length of the resolved
path, and the least resolved one by the same length in the opposite order.

## Main definitions

* `MessageKeys.IsStableExtremum` — a selection that takes the earliest of the best items.

## Main results

* `MessageKeys.isEarliestBest_iff_exists_index` — the earliest best item by its index.
* `MessageKeys.IsEarliestBest.append_left`, `MessageKeys.IsEarliestBest.append_right` — the best
  item of two lists, in the first or in the second.
* `MessageKeys.isStableExtremum_firstBy` — the first item that no other beats is such a selection.
* `MessageKeys.isStableExtremum_resolvedBy` — so are the most and the least resolved item, and the
  most resolved reference of a key in several trees is the first one that resolves completely.
-/

namespace MessageKeys

variable {α β : Type} [LinearOrder β] {score : α → β} {items xs ys : List α} {x y best : α}

/-! ### The earliest best item -/

/-- The earliest best item stands at an index below which all items have a lower score. -/
theorem isEarliestBest_iff_exists_index :
    IsEarliestBest score items best ↔
      ∃ i : Nat, items[i]? = some best ∧ (∀ item ∈ items, score item ≤ score best) ∧
        ∀ (j : Nat) (item : α), j < i → items[j]? = some item → score item < score best := by
  constructor
  · intro h
    have hle : ∀ item ∈ items, score item ≤ score best := fun item => h.le
    obtain ⟨before, after, rfl, hbefore, -⟩ := h
    refine ⟨before.length, by simp, hle, fun j item hj hitem => hbefore item ?_⟩
    rw [List.getElem?_append_left hj] at hitem
    exact List.mem_of_getElem? hitem
  · rintro ⟨i, hbest, hle, hlt⟩
    obtain ⟨hi, rfl⟩ := List.getElem?_eq_some_iff.mp hbest
    refine ⟨items.take i, items.drop (i + 1), ?_, fun item hitem => ?_, fun item hitem => ?_⟩
    · rw [← List.drop_eq_getElem_cons hi, List.take_append_drop]
    · obtain ⟨j, hj, rfl⟩ := List.mem_take_iff_getElem.mp hitem
      exact hlt j _ (by omega) (List.getElem?_eq_getElem _)
    · exact hle item (List.mem_of_mem_drop hitem)

/-- The best item of a list stays the best if no item behind the list is better. -/
theorem IsEarliestBest.append_left (h : IsEarliestBest score xs x)
    (hle : ∀ item ∈ ys, score item ≤ score x) : IsEarliestBest score (xs ++ ys) x := by
  obtain ⟨before, after, rfl, hbefore, hafter⟩ := h
  refine ⟨before, after ++ ys, by simp, hbefore, fun item hitem => ?_⟩
  exact (List.mem_append.mp hitem).elim (hafter item) (hle item)

/-- The best item of a list stays the best if it is better than all items before the list. -/
theorem IsEarliestBest.append_right (h : IsEarliestBest score ys y)
    (hlt : ∀ item ∈ xs, score item < score y) : IsEarliestBest score (xs ++ ys) y := by
  obtain ⟨before, after, rfl, hbefore, hafter⟩ := h
  refine ⟨xs ++ before, after, by simp, fun item hitem => ?_, hafter⟩
  exact (List.mem_append.mp hitem).elim (hlt item) (hbefore item)

/-- The best item of two lists is the better one of their best items, or the first of equals. -/
theorem IsEarliestBest.append (hx : IsEarliestBest score xs x) (hy : IsEarliestBest score ys y) :
    IsEarliestBest score (xs ++ ys) (if score x < score y then y else x) := by
  split_ifs with h
  · exact hy.append_right fun item hitem => lt_of_le_of_lt (hx.le hitem) h
  · exact hx.append_left fun item hitem => le_trans (hy.le hitem) (not_lt.mp h)

theorem isEarliestBest_singleton (score : α → β) (x : α) : IsEarliestBest score [x] x :=
  ⟨[], [], rfl, by simp, by simp⟩

/-! ### Stable selections -/

/-- A selection that takes the item with the highest score at the smallest index. -/
structure IsStableExtremum (select : List α → Option α) (score : α → β) : Prop where
  /-- Something is selected unless there is nothing to select from. -/
  eq_none_iff : ∀ items, select items = none ↔ items = []
  /-- No item is better than the one that is selected, and those before it are worse. -/
  eq_some_iff : ∀ items best, select items = some best ↔
    ∃ i : Nat, items[i]? = some best ∧ (∀ item ∈ items, score item ≤ score best) ∧
      ∀ (j : Nat) (item : α), j < i → items[j]? = some item → score item < score best
  /-- From two lists the same is selected as from what is selected from each. -/
  append : ∀ xs ys, select (xs ++ ys) = select ((select xs).toList ++ (select ys).toList)
  /-- Only a better item behind the others changes the choice. -/
  append_of_le : ∀ xs ys best, select xs = some best →
    (∀ item ∈ ys, score item ≤ score best) → select (xs ++ ys) = some best
  /-- The score of what is selected does not fall with items behind the others. -/
  le_append : ∀ xs ys best best', select xs = some best → select (xs ++ ys) = some best' →
    score best ≤ score best'

variable {better : α → α → Bool}

/-- From two lists the same is selected as from what is selected from each. -/
theorem firstBy_append (hbetter : ∀ x y, better x y = true ↔ score y < score x) (xs ys : List α) :
    firstBy better (xs ++ ys) =
      firstBy better ((firstBy better xs).toList ++ (firstBy better ys).toList) := by
  cases hxs : firstBy better xs with
  | none =>
    rw [firstBy_eq_none_iff.mp hxs, List.nil_append]
    cases hys : firstBy better ys with
    | none => rfl
    | some y => exact ((firstBy_eq_some_iff hbetter).mpr (isEarliestBest_singleton score y)).symm
  | some x =>
    have hx := firstBy_isEarliestBest hbetter hxs
    cases hys : firstBy better ys with
    | none =>
      rw [firstBy_eq_none_iff.mp hys, List.append_nil, hxs]
      exact ((firstBy_eq_some_iff hbetter).mpr (isEarliestBest_singleton score x)).symm
    | some y =>
      have hy := firstBy_isEarliestBest hbetter hys
      rw [(firstBy_eq_some_iff hbetter).mpr (hx.append hy)]
      have hpair := (isEarliestBest_singleton score x).append (isEarliestBest_singleton score y)
      exact ((firstBy_eq_some_iff hbetter).mpr hpair).symm

/-- The first item that no other beats is a stable selection. -/
theorem isStableExtremum_firstBy (hbetter : ∀ x y, better x y = true ↔ score y < score x) :
    IsStableExtremum (firstBy better) score where
  eq_none_iff _ := firstBy_eq_none_iff
  eq_some_iff _ _ := (firstBy_eq_some_iff hbetter).trans isEarliestBest_iff_exists_index
  append := firstBy_append hbetter
  append_of_le _ _ _ h hle :=
    (firstBy_eq_some_iff hbetter).mpr ((firstBy_isEarliestBest hbetter h).append_left hle)
  le_append _ _ _ _ h h' :=
    (firstBy_isEarliestBest hbetter h').le
      (List.mem_append_left _ (firstBy_isEarliestBest hbetter h).mem)

/-! ### Several trees -/

/-- The references of a key in some trees are references of that key. -/
theorem isOf_of_mem_map_resolve (rules : PluralRules) (key : List String) (roots : List Tree) :
    ∀ r ∈ roots.map fun root => root.resolve rules key, (id r).IsOf key := by
  intro r hr
  obtain ⟨root, -, rfl⟩ := List.mem_map.mp hr
  exact Tree.path_append_unresolved ..

/-- **Stable selection.** The most resolved item is the one with the longest path at the smallest
index, and the least resolved item the one with the shortest path. Items behind the others change
the choice only if they are better, and the choice from two lists can be made from the choices from
each. The most resolved reference of a key in several trees resolves completely exactly if the key
does in one of them, and then it is the reference in the first such tree. -/
theorem isStableExtremum_resolvedBy (reference : α → Reference) :
    IsStableExtremum (mostResolvedBy? reference) (fun item => (reference item).path.length) ∧
    IsStableExtremum (leastResolvedBy? reference)
      (fun item => OrderDual.toDual (reference item).path.length) ∧
    ∀ (rules : PluralRules) (key : List String) (roots : List Tree),
      ((∃ r, resolveIn? rules key roots = some r ∧ r.isResolved) ↔
        ∃ root ∈ roots, (root.resolve rules key).isResolved) ∧
      ∀ root, roots.find? (fun root => (root.resolve rules key).isResolved) = some root →
        resolveIn? rules key roots = some (root.resolve rules key) := by
  refine ⟨isStableExtremum_firstBy fun _ _ => decide_eq_true_iff,
    isStableExtremum_firstBy fun _ _ => decide_eq_true_iff, fun rules key roots => ⟨?_, ?_⟩⟩
  · have hkey := isOf_of_mem_map_resolve rules key roots
    constructor
    · rintro ⟨r, hr, hresolved⟩
      obtain ⟨_, hmem, hfull⟩ := (isResolved_mostResolved_iff hkey hr).mp hresolved
      obtain ⟨root, hroot, rfl⟩ := List.mem_map.mp hmem
      exact ⟨root, hroot, hfull⟩
    · rintro ⟨root, hroot, hresolved⟩
      have hmem := List.mem_map_of_mem (f := fun root => root.resolve rules key) hroot
      obtain ⟨r, hr⟩ := exists_mostResolvedBy?_eq_some id (List.ne_nil_of_mem hmem)
      exact ⟨r, hr, (isResolved_mostResolved_iff hkey hr).mpr ⟨_, hmem, hresolved⟩⟩
  · intro root hroot
    refine mostResolvedBy?_eq_of_find? (isOf_of_mem_map_resolve rules key roots) ?_
    rw [List.find?_map]
    exact congrArg (Option.map fun root => root.resolve rules key) hroot

end MessageKeys
