import MessageKeys.Proofs.Key.Slice

/-!
# The spans of a key tile it

The spans of a key are computed one by one from the lengths of its tokens, and the length of the key
is computed apart from them. They agree: from the start of the key to its end, the namespace and the
path tokens follow each other with one character between any two, whatever the lengths of the tokens
are. What is unresolved begins where a token does, and begins the later the more tokens resolve.

## Main definitions

* `MessageKeys.Key.IsTiled` — the spans of a key follow each other and fill it.

## Main results

* `MessageKeys.Key.tokenStart_succ` — a path token begins behind the one before it.
* `MessageKeys.Key.tokenStart_length` — behind the last path token the key ends.
* `MessageKeys.Key.parse_isTiled` — the spans of every key that is read tile it.
-/

namespace MessageKeys

namespace Key

/-- The spans of a key follow each other, one character apart, and fill the key. -/
structure IsTiled (k : Key) : Prop where
  /-- The whole key begins at the start of the source. -/
  fullSpan_start : k.fullSpan.start = 0
  /-- The namespace comes first, and the path begins behind it and its separator. -/
  namespaceSpan : ∀ u, k.namespaceSpan? = some u →
    u.start = k.fullSpan.start ∧ u.stop + 1 = k.pathSpan.start
  /-- Without a namespace the path comes first. -/
  pathSpan_start : k.namespaceSpan? = none → k.pathSpan.start = k.fullSpan.start
  /-- The first token begins where the path does. -/
  first : ∃ u, k.tokenSpan? 0 = some u ∧ u.start = k.pathSpan.start
  /-- A token begins behind the one before it and a separator. -/
  next : ∀ i u v, k.tokenSpan? i = some u → k.tokenSpan? (i + 1) = some v →
    v.start = u.stop + 1
  /-- The last token ends where the path and the whole key do. -/
  last : ∃ u, k.tokenSpan? (k.path.length - 1) = some u ∧ u.stop = k.fullSpan.stop ∧
    u.stop = k.pathSpan.stop ∧ u.stop = k.length
  /-- The tokens of the path have spans, and nothing else has. -/
  tokenSpan?_eq_none_iff : ∀ i, k.tokenSpan? i = none ↔ k.path.length ≤ i
  /-- What is unresolved from a token on begins where the token does. -/
  unresolvedSpan_of_token : ∀ n u, k.tokenSpan? n = some u →
    k.unresolvedSpan n = ⟨u.start, k.fullSpan.stop⟩
  /-- Behind the last token nothing is unresolved. -/
  unresolvedSpan_of_none : ∀ n, k.tokenSpan? n = none →
    k.unresolvedSpan n = ⟨k.fullSpan.stop, k.fullSpan.stop⟩
  /-- The more tokens resolve, the later the unresolved part begins. -/
  unresolvedSpan_mono : ∀ m n, m ≤ n → (k.unresolvedSpan m).start ≤ (k.unresolvedSpan n).start
  /-- The unresolved part begins before its end, or there. -/
  unresolvedSpan_le : ∀ n, (k.unresolvedSpan n).start ≤ (k.unresolvedSpan n).stop

variable {k : Key} {i n : Nat} {u v : Span}

/-! ### Where path tokens begin -/

theorem tokenStart_zero (k : Key) : k.tokenStart 0 = k.pathStart := by
  simp [tokenStart, Token.lengths]

/-- A path token begins behind the one before it and a separator. -/
theorem tokenStart_succ (h : i < k.path.length) :
    k.tokenStart (i + 1) = k.tokenStart i + k.path[i].length + 1 := by
  rw [tokenStart_eq_extent, tokenStart_eq_extent, List.take_add_one, List.getElem?_eq_getElem h,
    Option.toList_some, ← List.append_assoc, Token.extent_append, Token.extent_cons,
    Token.extent_nil]
  omega

theorem tokenStart_mono (k : Key) {m n : Nat} (h : m ≤ n) : k.tokenStart m ≤ k.tokenStart n := by
  rw [tokenStart_eq_extent, tokenStart_eq_extent]
  exact Token.extent_le_of_prefix
    ((List.prefix_append_right_inj _).mpr (List.take_prefix_take_left h))

/-- A token behind the last one would begin behind the end of the key and a separator. -/
theorem tokenStart_length (h : k.path ≠ []) : k.tokenStart k.path.length = k.length + 1 := by
  rw [tokenStart_eq_extent, List.take_length, length_add_one h]
  rfl

/-! ### Spans of path tokens -/

theorem tokenSpan?_eq_some (h : i < k.path.length) :
    k.tokenSpan? i = some ⟨k.tokenStart i, k.tokenStart i + k.path[i].length⟩ := by
  rw [tokenSpan?, List.getElem?_eq_getElem h]
  rfl

theorem tokenSpan?_eq_none_iff : k.tokenSpan? i = none ↔ k.path.length ≤ i := by
  rw [tokenSpan?, Option.map_eq_none_iff, List.getElem?_eq_none_iff]

theorem lt_length_of_tokenSpan? (h : k.tokenSpan? i = some u) : i < k.path.length := by
  by_contra hge
  rw [tokenSpan?_eq_none_iff.mpr (Nat.le_of_not_lt hge)] at h
  cases h

/-- The span of a path token ends one character before the next token would begin. -/
theorem stop_add_one_of_tokenSpan? (h : k.tokenSpan? i = some u) :
    u.start = k.tokenStart i ∧ u.stop + 1 = k.tokenStart (i + 1) := by
  have hi := lt_length_of_tokenSpan? h
  rw [tokenSpan?_eq_some hi, Option.some_inj] at h
  subst h
  exact ⟨rfl, (tokenStart_succ hi).symm⟩

/-! ### The unresolved part -/

theorem unresolvedSpan_of_lt (h : n < k.path.length) :
    k.unresolvedSpan n = ⟨k.tokenStart n, k.length⟩ := if_pos h

theorem unresolvedSpan_of_le (h : k.path.length ≤ n) :
    k.unresolvedSpan n = ⟨k.length, k.length⟩ := if_neg (Nat.not_lt.mpr h)

theorem unresolvedSpan_start_le_length (k : Key) (n : Nat) :
    (k.unresolvedSpan n).start ≤ k.length := by
  by_cases h : n < k.path.length
  · rw [unresolvedSpan_of_lt h]
    exact tokenStart_le_length h
  · rw [unresolvedSpan_of_le (Nat.le_of_not_lt h)]

theorem unresolvedSpan_start_mono (k : Key) {m n : Nat} (h : m ≤ n) :
    (k.unresolvedSpan m).start ≤ (k.unresolvedSpan n).start := by
  by_cases hn : n < k.path.length
  · rw [unresolvedSpan_of_lt hn, unresolvedSpan_of_lt (Nat.lt_of_le_of_lt h hn)]
    exact tokenStart_mono k h
  · rw [unresolvedSpan_of_le (Nat.le_of_not_lt hn)]
    exact unresolvedSpan_start_le_length k m

theorem unresolvedSpan_stop (k : Key) (n : Nat) : (k.unresolvedSpan n).stop = k.length := by
  unfold unresolvedSpan
  split <;> rfl

/-! ### Keys that are read -/

/-- The spans of a key tile it if its path is not empty. -/
theorem isTiled_of_path_ne_nil (h : k.path ≠ []) : k.IsTiled where
  fullSpan_start := rfl
  namespaceSpan u hu := by
    obtain ⟨ns, hns, rfl⟩ := Option.map_eq_some_iff.mp hu
    simp [fullSpan, pathSpan, pathStart, hns]
  pathSpan_start hnone := by
    have hns : k.ns? = none := Option.map_eq_none_iff.mp hnone
    simp [fullSpan, pathSpan, pathStart, hns]
  first := ⟨_, tokenSpan?_eq_some (List.length_pos_iff.mpr h), tokenStart_zero k⟩
  next i u v hu hv := by
    rw [(stop_add_one_of_tokenSpan? hv).1, (stop_add_one_of_tokenSpan? hu).2]
  last := by
    have hpos := List.length_pos_iff.mpr h
    have hspan := tokenSpan?_eq_some (k := k) (Nat.sub_lt hpos Nat.one_pos)
    have hstop := (stop_add_one_of_tokenSpan? hspan).2
    rw [Nat.sub_add_cancel hpos, tokenStart_length h, Nat.add_right_cancel_iff] at hstop
    exact ⟨_, hspan, hstop, hstop, hstop⟩
  tokenSpan?_eq_none_iff _ := tokenSpan?_eq_none_iff
  unresolvedSpan_of_token n u hu := by
    rw [unresolvedSpan_of_lt (lt_length_of_tokenSpan? hu), (stop_add_one_of_tokenSpan? hu).1]
    rfl
  unresolvedSpan_of_none n hn := unresolvedSpan_of_le (tokenSpan?_eq_none_iff.mp hn)
  unresolvedSpan_mono _ _ := unresolvedSpan_start_mono k
  unresolvedSpan_le n := by
    rw [unresolvedSpan_stop]
    exact unresolvedSpan_start_le_length k n

/-- **The spans of a key tile it.** Whatever the fragments and the separators are, and even if the
separators of a value outnumber its source characters, the namespace and the path tokens of a key
follow each other from its start to its end, one character apart, and the unresolved part begins at
a token or at the end. -/
theorem parse_isTiled (separators : Separators) (fragments : List Fragment) :
    (parse separators fragments).IsTiled :=
  isTiled_of_path_ne_nil (path_parse_ne_nil separators fragments)

/-- The value has three separators and only one source character. -/
example :
    let k := parse {} [.literal "ns:a", .interpolated "x" "b..c.d"]
    k.namespaceSpan? = some ⟨0, 2⟩ ∧
      (List.range 5).map k.tokenSpan? =
        [some ⟨3, 4⟩, some ⟨5, 5⟩, some ⟨6, 6⟩, some ⟨7, 7⟩, none] ∧ k.length = 7 := by
  decide +kernel

end Key

end MessageKeys
