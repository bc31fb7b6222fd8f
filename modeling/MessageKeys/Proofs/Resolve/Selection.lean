import Mathlib.Algebra.Order.Ring.Nat
import MessageKeys.Resolve.Selection

/-!
# The item that is selected

Of several items the one with the highest score is selected, and of equals the earliest. With the
length of the resolved path as the score this is the most resolved reference; it resolves completely
as soon as any does.

## Main definitions

* `MessageKeys.IsEarliestBest` — an item with the highest score, the earliest of equals.
* `MessageKeys.Reference.IsOf` — a reference of a key.

## Main results

* `MessageKeys.firstBy_eq_some_iff` — the first item that no other beats is the earliest best.
* `MessageKeys.isResolved_mostResolved_iff` — the most resolved reference resolves completely
  exactly if some reference does.
* `MessageKeys.mostResolvedBy?_eq_of_find?` — then it is the first reference that does.
* `MessageKeys.isResolved_leastResolved_iff` — the least resolved reference resolves completely
  exactly if all references do.
-/

namespace MessageKeys

variable {α β : Type} [LinearOrder β]

/-- An item with the highest score; all items before it have a lower one. -/
def IsEarliestBest (score : α → β) (items : List α) (best : α) : Prop :=
  ∃ before after, items = before ++ best :: after ∧
    (∀ item ∈ before, score item < score best) ∧ ∀ item ∈ after, score item ≤ score best

variable {score : α → β} {better : α → α → Bool} {items : List α} {best : α}

theorem IsEarliestBest.mem (h : IsEarliestBest score items best) : best ∈ items := by
  obtain ⟨before, after, rfl, -, -⟩ := h
  exact List.mem_append_right _ List.mem_cons_self

theorem IsEarliestBest.le (h : IsEarliestBest score items best) {item : α} (hitem : item ∈ items) :
    score item ≤ score best := by
  obtain ⟨before, after, rfl, hbefore, hafter⟩ := h
  rcases List.mem_append.mp hitem with hitem | hitem
  · exact le_of_lt (hbefore item hitem)
  · rcases List.mem_cons.mp hitem with rfl | hitem
    · exact le_refl _
    · exact hafter item hitem

/-- The best of an item and later ones stays the best when an item is put between that is no
better than the first. -/
theorem IsEarliestBest.insert_second {item next : α}
    (h : IsEarliestBest score (item :: items) best) (hle : score next ≤ score item) :
    IsEarliestBest score (item :: next :: items) best := by
  obtain ⟨before, after, heq, hbefore, hafter⟩ := h
  cases before with
  | nil =>
    obtain ⟨rfl, rfl⟩ := List.cons.inj heq
    exact ⟨[], next :: items, rfl, by simp, List.forall_mem_cons.mpr ⟨hle, hafter⟩⟩
  | cons first before =>
    obtain ⟨rfl, rfl⟩ := List.cons.inj heq
    obtain ⟨hfirst, hbefore⟩ := List.forall_mem_cons.mp hbefore
    refine ⟨item :: next :: before, after, rfl, ?_, hafter⟩
    exact List.forall_mem_cons.mpr
      ⟨hfirst, List.forall_mem_cons.mpr ⟨lt_of_le_of_lt hle hfirst, hbefore⟩⟩

/-- The best of some items stays the best behind one with a lower score than the first of them. -/
theorem IsEarliestBest.cons {item next : α} (h : IsEarliestBest score (next :: items) best)
    (hlt : score item < score next) : IsEarliestBest score (item :: next :: items) best := by
  have hle := h.le List.mem_cons_self
  obtain ⟨before, after, heq, hbefore, hafter⟩ := h
  exact ⟨item :: before, after, by rw [heq, List.cons_append],
    List.forall_mem_cons.mpr ⟨lt_of_lt_of_le hlt hle, hbefore⟩, hafter⟩

/-- The first item that no other beats is the earliest of the best ones. -/
theorem firstBy_isEarliestBest (hbetter : ∀ x y, better x y = true ↔ score y < score x)
    (h : firstBy better items = some best) : IsEarliestBest score items best := by
  cases items with
  | nil => cases h
  | cons item items =>
    obtain rfl := Option.some_inj.mp h
    clear h
    -- The fold carries the best item so far, as if it stood before the items ahead.
    induction items generalizing item with
    | nil => exact ⟨[], [], rfl, by simp, by simp⟩
    | cons next items ih =>
      rw [List.foldl_cons]
      by_cases hnext : better next item = true
      · rw [if_pos hnext]
        exact (ih next).cons ((hbetter next item).mp hnext)
      · rw [if_neg hnext]
        exact (ih item).insert_second (not_lt.mp fun hlt => hnext ((hbetter next item).mpr hlt))

theorem firstBy_eq_none_iff : firstBy better items = none ↔ items = [] := by
  cases items <;> simp [firstBy]

/-- Two best items stand at the same place: the later one would be no better than the earlier. -/
theorem IsEarliestBest.unique {other : α} (h : IsEarliestBest score items best)
    (hother : IsEarliestBest score items other) : best = other := by
  have hle := h.le hother.mem
  have hge := hother.le h.mem
  obtain ⟨before, after, rfl, hbefore, -⟩ := h
  obtain ⟨before', after', heq, hbefore', -⟩ := hother
  rcases List.append_eq_append_iff.mp heq with ⟨between, rfl, hsplit⟩ | ⟨between, rfl, hsplit⟩
  · cases between with
    | nil => exact (List.cons.inj hsplit).1
    | cons item between =>
      obtain ⟨rfl, -⟩ := List.cons.inj hsplit
      exact absurd hle (not_le_of_gt (hbefore' best (by simp)))
  · cases between with
    | nil => exact (List.cons.inj hsplit).1.symm
    | cons item between =>
      obtain ⟨rfl, -⟩ := List.cons.inj hsplit
      exact absurd hge (not_le_of_gt (hbefore other (by simp)))

theorem firstBy_eq_some_iff (hbetter : ∀ x y, better x y = true ↔ score y < score x) :
    firstBy better items = some best ↔ IsEarliestBest score items best := by
  constructor
  · exact firstBy_isEarliestBest hbetter
  · intro h
    cases hfirst : firstBy better items with
    | none =>
      rw [firstBy_eq_none_iff.mp hfirst] at h
      exact absurd h.mem List.not_mem_nil
    | some first => rw [(firstBy_isEarliestBest hbetter hfirst).unique h]

/-- Items that are made from others are compared as the others are. -/
theorem firstBy_map {γ : Type} (f : γ → α) (items : List γ) :
    firstBy better (items.map f) = (firstBy (fun x y => better (f x) (f y)) items).map f := by
  cases items with
  | nil => rfl
  | cons item items =>
    rw [List.map_cons, firstBy, firstBy, Option.map_some, List.foldl_map]
    refine congrArg some (List.foldl_hom f fun x y => ?_)
    exact (apply_ite f _ _ _).symm

/-! ### References -/

/-- A reference of a key: the key is the path with the segments that are unresolved. -/
def Reference.IsOf (key : List String) (r : Reference) : Prop := r.path ++ r.unresolved = key

theorem Reference.IsOf.isResolved_iff {key : List String} {r : Reference} (h : r.IsOf key) :
    r.isResolved ↔ key.length ≤ r.path.length := by
  rw [← h, List.length_append, isResolved, List.isEmpty_iff, ← List.length_eq_zero_iff]
  omega

theorem Reference.IsOf.length_path_le {key : List String} {r : Reference} (h : r.IsOf key) :
    r.path.length ≤ key.length := by
  rw [← h, List.length_append]
  omega

variable {reference : α → Reference}

/-- The most resolved item is the earliest of those with the longest path. -/
theorem mostResolvedBy?_eq_some_iff :
    mostResolvedBy? reference items = some best ↔
      IsEarliestBest (fun item => (reference item).path.length) items best :=
  firstBy_eq_some_iff fun _ _ => decide_eq_true_iff

theorem mostResolvedBy?_isEarliestBest (h : mostResolvedBy? reference items = some best) :
    IsEarliestBest (fun item => (reference item).path.length) items best :=
  mostResolvedBy?_eq_some_iff.mp h

/-- The least resolved item is the earliest of those with the shortest path. -/
theorem leastResolvedBy?_eq_some_iff :
    leastResolvedBy? reference items = some best ↔
      IsEarliestBest (fun item => OrderDual.toDual (reference item).path.length) items best :=
  firstBy_eq_some_iff fun _ _ => decide_eq_true_iff

theorem exists_mostResolvedBy?_eq_some (reference : α → Reference) (h : items ≠ []) :
    ∃ best, mostResolvedBy? reference items = some best :=
  Option.ne_none_iff_exists'.mp fun hnone => h (firstBy_eq_none_iff.mp hnone)

theorem exists_leastResolvedBy?_eq_some (reference : α → Reference) (h : items ≠ []) :
    ∃ worst, leastResolvedBy? reference items = some worst :=
  Option.ne_none_iff_exists'.mp fun hnone => h (firstBy_eq_none_iff.mp hnone)

theorem mostResolvedBy?_map {γ : Type} (f : γ → α) (items : List γ) :
    mostResolvedBy? reference (items.map f) =
      (mostResolvedBy? (fun item => reference (f item)) items).map f :=
  firstBy_map f items

theorem leastResolvedBy?_map {γ : Type} (f : γ → α) (items : List γ) :
    leastResolvedBy? reference (items.map f) =
      (leastResolvedBy? (fun item => reference (f item)) items).map f :=
  firstBy_map f items

/-- The most resolved reference of a key resolves completely exactly if some reference does. -/
theorem isResolved_mostResolved_iff {key : List String}
    (hkey : ∀ item ∈ items, (reference item).IsOf key)
    (h : mostResolvedBy? reference items = some best) :
    (reference best).isResolved ↔ ∃ item ∈ items, (reference item).isResolved := by
  have hbest := mostResolvedBy?_isEarliestBest h
  constructor
  · exact fun hr => ⟨best, hbest.mem, hr⟩
  · rintro ⟨item, hitem, hr⟩
    rw [(hkey item hitem).isResolved_iff] at hr
    rw [(hkey best hbest.mem).isResolved_iff]
    exact Nat.le_trans hr (hbest.le hitem)

/-- The most resolved reference of a key is the first one that resolves completely, if any does. -/
theorem mostResolvedBy?_eq_of_find? {key : List String}
    (hkey : ∀ item ∈ items, (reference item).IsOf key)
    (h : items.find? (fun item => (reference item).isResolved) = some best) :
    mostResolvedBy? reference items = some best := by
  obtain ⟨hbest, before, after, rfl, hbefore⟩ := List.find?_eq_some_iff_append.mp h
  rw [(hkey best (by simp)).isResolved_iff] at hbest
  refine mostResolvedBy?_eq_some_iff.mpr ⟨before, after, rfl, ?_, ?_⟩
  · intro item hitem
    have hlt : ¬ key.length ≤ (reference item).path.length := by
      rw [← (hkey item (by simp [hitem])).isResolved_iff]
      simpa using hbefore item hitem
    exact Nat.lt_of_lt_of_le (Nat.lt_of_not_le hlt) hbest
  · intro item hitem
    exact Nat.le_trans (hkey item (by simp [hitem])).length_path_le hbest

/-- The least resolved reference of a key resolves completely exactly if all references do. -/
theorem isResolved_leastResolved_iff {key : List String}
    (hkey : ∀ item ∈ items, (reference item).IsOf key)
    (h : leastResolvedBy? reference items = some best) :
    (reference best).isResolved ↔ ∀ item ∈ items, (reference item).isResolved := by
  have hbest := leastResolvedBy?_eq_some_iff.mp h
  constructor
  · intro hr item hitem
    rw [(hkey best hbest.mem).isResolved_iff] at hr
    rw [(hkey item hitem).isResolved_iff]
    exact Nat.le_trans hr (OrderDual.toDual_le_toDual.mp (hbest.le hitem))
  · exact fun hall => hall best hbest.mem

/-- Nothing of the most resolved reference resolves exactly if nothing of any reference does. -/
theorem path_mostResolved_eq_nil_iff (h : mostResolvedBy? reference items = some best) :
    (reference best).path = [] ↔ ∀ item ∈ items, (reference item).path = [] := by
  have hbest := mostResolvedBy?_isEarliestBest h
  constructor
  · intro hnil item hitem
    have hle := hbest.le hitem
    rw [hnil] at hle
    exact List.length_eq_zero_iff.mp (Nat.le_zero.mp hle)
  · exact fun hall => hall best hbest.mem

end MessageKeys
