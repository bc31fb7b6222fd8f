import MessageKeys.Proofs.Resolve.LongestPrefix

/-!
# Keys that go on

A key is followed in one piece, and only its last segment may take a plural form. So what becomes of
a key that goes on behind another one depends on how the other one ends. If it leads to a node by
the names of the children, the rest is looked up there. If its last segment has plural forms only,
that segment is no longer the last one, and the longer key is stuck before it. If it is stuck, the
longer key is stuck at the same node.

## Main results

* `MessageKeys.Tree.resolve_of_missing` — a key is stuck before a missing segment that is not its
  last one, whatever plural forms that segment has.
* `MessageKeys.Tree.resolve_append` — the reference of a key that goes on behind another one.
-/

namespace MessageKeys

namespace Tree

variable {rules : PluralRules} {t node : Tree} {name : String} {names rest : List String}

/-- The plural forms of a missing segment do not matter if the key goes on behind it. -/
theorem resolve_of_missing (h : t.follow? names = some node) (hchild : node.child? name = none)
    (hrest : rest ≠ []) :
    t.resolve rules (names ++ name :: rest) = ⟨names, node, name :: rest, false⟩ :=
  resolve_of_stuck h hchild fun hnil => absurd hnil hrest

/-- **Keys that go on.** Let a key go on behind another one. If that one resolves without a plural
form, the rest is looked up at its node. If it resolves to a plural form, the longer key is stuck
before the segment that has it, at the node that the others lead to. If it does not resolve, the
longer key is stuck where it is. -/
theorem resolve_append (rules : PluralRules) (t : Tree) (key : List String) (next : String)
    (rest : List String) :
    let r := t.resolve rules key
    let longer := t.resolve rules (key ++ next :: rest)
    (r.isResolved → r.isPlural = false →
      let below := r.node.resolve rules (next :: rest)
      longer = ⟨key ++ below.path, below.node, below.unresolved, below.isPlural⟩) ∧
    (r.isResolved → r.isPlural →
      ∃ names name node, key = names ++ [name] ∧ t.follow? names = some node ∧
        longer = ⟨names, node, name :: next :: rest, false⟩) ∧
    (r.isResolved = false →
      longer = ⟨r.path, r.node, r.unresolved ++ next :: rest, false⟩) := by
  intro r longer
  have h : t.Ends rules key r := ends_resolve rules t key
  clear_value r
  cases h with
  | whole _ node h =>
    refine ⟨fun _ _ => resolve_of_follow? h (next :: rest), fun _ hplural => ?_, fun hr => ?_⟩
    · cases hplural
    · cases hr
  | plural names name node _ h hchild =>
    refine ⟨fun _ hplural => ?_, fun _ _ => ⟨names, name, node, rfl, h, ?_⟩, fun hr => ?_⟩
    · cases hplural
    · have hlonger : longer = t.resolve rules (names ++ name :: next :: rest) :=
        congrArg (t.resolve rules) (List.append_cons ..).symm
      rw [hlonger, resolve_of_missing h hchild (List.cons_ne_nil _ _)]
    · cases hr
  | stuck names name between node h hchild =>
    refine ⟨fun hr => ?_, fun hr => ?_, fun _ => ?_⟩
    · cases hr
    · cases hr
    · have hlonger : longer = t.resolve rules (names ++ name :: (between ++ next :: rest)) :=
        congrArg (t.resolve rules) (List.append_assoc ..)
      rw [hlonger, resolve_of_missing h hchild (List.append_ne_nil_of_right_ne_nil _
        (List.cons_ne_nil _ _)), List.cons_append]

/-- The prefix resolves to a plural form, which has the next segment below it; the longer key does
not come that far. -/
example :
    let t : Tree := .branch [("cart_one", .branch [("title", .leaf (some "x"))])]
    (t.resolve .default ["cart"]).isPlural ∧
      (t.resolve .default ["cart", "title"]).path = [] := by
  decide +kernel

end Tree

end MessageKeys
