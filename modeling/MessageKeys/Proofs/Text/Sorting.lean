import Mathlib.Data.List.Sort
import Mathlib.Data.String.Basic

/-!
# Sorting by texts

Things are sorted by a text that each of them has, and once texts are sorted, equal ones stand next
to each other and one of each is kept. Without equal texts the order is strict.

## Main results

* `MessageKeys.pairwise_mergeSort_lt` — what is sorted by different texts is in strict order.
* `MessageKeys.eq_of_pairwise_lt` — lists with the same members in strict order are equal.
* `MessageKeys.mem_eraseReps`, `MessageKeys.pairwise_eraseReps` — texts with one kept of each.
-/

namespace MessageKeys

variable {α : Type}

theorem pairwise_mergeSort_le (key : α → String) (l : List α) :
    (l.mergeSort fun x y => decide (key x ≤ key y)).Pairwise fun x y => key x ≤ key y := by
  have htrans : ∀ x y z, decide (key x ≤ key y) = true → decide (key y ≤ key z) = true →
      decide (key x ≤ key z) = true := fun x y z hxy hyz =>
    decide_eq_true ((of_decide_eq_true hxy).trans (of_decide_eq_true hyz))
  have htotal : ∀ x y, (decide (key x ≤ key y) || decide (key y ≤ key x)) = true := fun x y => by
    simpa using le_total (key x) (key y)
  exact (List.pairwise_mergeSort htrans htotal l).imp of_decide_eq_true

theorem pairwise_mergeSort_lt {key : α → String} {l : List α} (h : (l.map key).Nodup) :
    (l.mergeSort fun x y => decide (key x ≤ key y)).Pairwise fun x y => key x < key y := by
  have hperm := (List.mergeSort_perm l fun x y => decide (key x ≤ key y)).map key
  have hne : (l.mergeSort fun x y => decide (key x ≤ key y)).Pairwise fun x y => key x ≠ key y :=
    List.pairwise_map.mp (hperm.nodup_iff.mpr h)
  exact (pairwise_mergeSort_le key l).imp₂ (fun _ _ => lt_of_le_of_ne) hne

/-- Things in the strict order of their keys are listed in one way only. -/
theorem eq_of_pairwise_lt {key : α → List String} {l l' : List α}
    (h : l.Pairwise fun x y => key x < key y) (h' : l'.Pairwise fun x y => key x < key y)
    (hmem : ∀ x, x ∈ l ↔ x ∈ l') : l = l' := by
  have : Std.Irrefl fun x y => key x < key y := ⟨fun x => lt_irrefl (key x)⟩
  have : Std.Antisymm fun x y => key x < key y := ⟨fun _ _ hlt hgt => absurd hgt (lt_asymm hlt)⟩
  exact h.eq_of_mem_iff h' hmem

/-! ### One of each -/

theorem eraseRepsBy_loop_eq (r : α → α → Bool) (a : α) (l acc : List α) :
    List.eraseRepsBy.loop r a l acc = acc.reverse ++ List.eraseRepsBy.loop r a l [] := by
  induction l generalizing a acc with
  | nil => simp [List.eraseRepsBy.loop]
  | cons b l ih =>
    rw [List.eraseRepsBy.loop, List.eraseRepsBy.loop]
    split
    · exact ih a acc
    · rw [ih b (a :: acc), ih b [a]]
      simp

theorem eraseReps_cons_cons (a b : String) (l : List String) :
    (a :: b :: l).eraseReps = if a = b then (a :: l).eraseReps else a :: (b :: l).eraseReps := by
  simp only [List.eraseReps, List.eraseRepsBy]
  rw [List.eraseRepsBy.loop]
  by_cases h : a = b
  · simp [h]
  · rw [beq_eq_false_iff_ne.mpr h, if_neg h]
    exact eraseRepsBy_loop_eq _ b l [a]

@[simp] theorem mem_eraseReps {l : List String} {text : String} :
    text ∈ l.eraseReps ↔ text ∈ l := by
  match l with
  | [] => rfl
  | [a] => rfl
  | a :: b :: l =>
    have hfirst : text ∈ (a :: l).eraseReps ↔ text ∈ a :: l := mem_eraseReps
    have hrest : text ∈ (b :: l).eraseReps ↔ text ∈ b :: l := mem_eraseReps
    rw [eraseReps_cons_cons]
    split
    · rename_i heq
      subst heq
      simp [hfirst]
    · rw [List.mem_cons, hrest, ← List.mem_cons]

/-- Sorted texts of which one of each is kept are in strict order. -/
theorem pairwise_eraseReps {l : List String} (h : l.Pairwise (· ≤ ·)) :
    l.eraseReps.Pairwise (· < ·) := by
  match l, h with
  | [], _ => exact .nil
  | [a], _ => exact List.pairwise_singleton _ _
  | a :: b :: l, h =>
    obtain ⟨hfirst, hrest⟩ := List.pairwise_cons.mp h
    rw [eraseReps_cons_cons]
    split
    · rename_i heq
      subst heq
      exact pairwise_eraseReps hrest
    · rename_i hne
      have hlt : a < b := lt_of_le_of_ne (hfirst b List.mem_cons_self) hne
      refine List.pairwise_cons.mpr ⟨fun text hmem => ?_, pairwise_eraseReps hrest⟩
      obtain rfl | htext := List.mem_cons.mp (mem_eraseReps.mp hmem)
      · exact hlt
      · exact hlt.trans_le ((List.pairwise_cons.mp hrest).1 text htext)

end MessageKeys
