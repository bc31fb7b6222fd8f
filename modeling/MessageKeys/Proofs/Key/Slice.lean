import MessageKeys.Proofs.Key.RoundTrip
import MessageKeys.Proofs.Key.Span

/-!
# What spans show

A span of a key shows a slice of its source. As long as the separators of each value fit into its
source, all spans end within the source. If the tokens span their texts, as those of a literal do,
the namespace shows its text, and what begins at a path token shows the segments from there on with
their separators.

## Main definitions

* `MessageKeys.Span.slice` — the part of a text that a span shows.

## Main results

* `MessageKeys.Key.length_parse_of_fits` — a key is as long as its source if the separators fit.
* `MessageKeys.Key.tokenStart_le_length` — a path token begins within the key.
* `MessageKeys.Key.exists_text_eq` — where a path token begins in the text of a key.
* `MessageKeys.Key.slice_unresolvedSpan`, `MessageKeys.Key.slice_namespaceSpan` — what is shown of
  a literal.
-/

namespace MessageKeys

/-! ### Slices -/

namespace Span

/-- The part of a text that a span shows. -/
def slice (s : Span) (text : String) : String :=
  String.ofList ((text.toList.drop s.start).take s.length)

theorem slice_prefix (start rest : String) :
    slice ⟨0, start.length⟩ (start ++ rest) = start := by
  simp [slice, length, ← String.length_toList]

theorem slice_suffix (start rest : String) :
    slice ⟨start.length, (start ++ rest).length⟩ (start ++ rest) = rest := by
  simp [slice, length, ← String.length_toList]

theorem slice_full (text : String) : slice ⟨0, text.length⟩ text = text := by
  have h := slice_prefix text ""
  rwa [String.append_empty] at h

end Span

namespace Key

/-! ### Spans within a key -/

section

variable {k : Key} {n : Nat}

/-- As long as the separators of each value fit into its source, a key is as long as its source. -/
theorem length_parse_of_fits {separators : Separators} {fragments : List Fragment}
    (h : (Reading.ofFragments separators fragments).Fits fragments) :
    (parse separators fragments).length = (parse separators fragments).source.length := by
  obtain ⟨s, hrun, -, hfinish⟩ := exists_feeds_parse separators fragments
  have hlength := length_add_one (path_parse_ne_nil separators fragments)
  rw [tokens_eq_of_finish hfinish, Segments.extent_tokens, hrun.extent_eq_of_fits h] at hlength
  rw [length_source_parse]
  exact Nat.succ.inj hlength

/-- A path token begins within the key. -/
theorem tokenStart_le_length (h : n < k.path.length) : k.tokenStart n ≤ k.length := by
  have hlength : k.length + 1 = _ := length_add_one (List.ne_nil_of_length_pos (by omega))
  have htokens : k.tokens =
      (k.ns?.toList ++ k.path.take n) ++ k.path[n] :: k.path.drop (n + 1) := by
    rw [List.append_assoc, ← List.drop_eq_getElem_cons h, List.take_append_drop]
    rfl
  rw [htokens, Token.extent_append, ← tokenStart_eq_extent, Token.extent_cons] at hlength
  omega

theorem nsLength_le_length (k : Key) : k.nsLength ≤ k.length := by
  rw [length]
  omega

end

/-! ### Tokens that span their texts -/

section Exact

variable {k : Key} {n : Nat}

/-- The texts of some tokens, joined by a separator, begin with those of the first ones, each with a
separator behind it. -/
theorem exists_intercalate_eq (separator : Char) {start rest : List Token}
    (h : ∀ t ∈ start, t.IsExact) (hrest : rest ≠ []) :
    ∃ before : String, before.length = Token.extent start ∧
      String.intercalate (String.singleton separator) ((start ++ rest).map Token.text) =
        before ++ String.intercalate (String.singleton separator) (rest.map Token.text) := by
  induction start with
  | nil => exact ⟨"", rfl, by simp⟩
  | cons t start ih =>
    obtain ⟨ht, hstart⟩ := List.forall_mem_cons.mp h
    obtain ⟨before, hlength, hbefore⟩ := ih hstart
    refine ⟨t.text ++ String.singleton separator ++ before, ?_, ?_⟩
    · have hexact : t.length = t.text.length := ht
      simp [hlength, hexact]
    · have hne : (start ++ rest).map Token.text ≠ [] := by simp [hrest]
      rw [List.cons_append, List.map_cons, String.intercalate_cons_of_ne_nil hne, hbefore,
        String.append_assoc, String.append_assoc, String.append_assoc]

/-- In the text of a key the segments from a path token on stand where that token begins. -/
theorem exists_text_eq (h : ∀ t ∈ k.tokens, t.IsExact) (hn : n < k.path.length) :
    ∃ before : String, before.length = k.tokenStart n ∧
      k.text = before ++
        String.intercalate (String.singleton k.separators.key) (k.segments.drop n) := by
  rw [tokens, List.forall_mem_append] at h
  have hrest : k.path.drop n ≠ [] := by simpa using hn
  obtain ⟨before, hlength, hbefore⟩ := exists_intercalate_eq k.separators.key
    (fun t ht => h.2 t (List.mem_of_mem_take ht)) hrest
  rw [List.take_append_drop, List.map_drop] at hbefore
  rw [tokenStart_eq_extent, Token.extent_append, ← hlength]
  cases hns : k.ns? with
  | none => exact ⟨before, by simp, by simp [text, hns, segments, hbefore]⟩
  | some ns =>
    have hexact : ns.length = ns.text.length := h.1 ns (by simp [hns])
    refine ⟨ns.text.push k.separators.ns ++ before, by simp [hexact], ?_⟩
    simp [text, hns, segments, hbefore, String.append_assoc]

/-- In the text of a key the namespace stands at the start. -/
theorem exists_text_eq_of_ns? {ns : Token} (hns : k.ns? = some ns) :
    ∃ rest : String, k.text = ns.text ++ rest := by
  refine ⟨String.singleton k.separators.ns ++
    String.intercalate (String.singleton k.separators.key) k.segments, ?_⟩
  rw [text, hns, ← String.append_assoc]
  simp

end Exact

/-! ### Literals -/

section Literal

variable (separators : Separators) (text : String)

theorem source_parseLiteral : (parseLiteral separators text).source = text := by
  simp [parseLiteral, parse]

/-- A literal has no values whose separators could be too many. -/
theorem fits_literal : (Reading.ofFragments separators [.literal text]).Fits [.literal text] := by
  intro before source value after heq
  have hmem : Fragment.interpolated source value ∈ [Fragment.literal text] := by simp [heq]
  simp at hmem

theorem length_parseLiteral : (parseLiteral separators text).length = text.length := by
  have h := length_parse_of_fits (fits_literal separators text)
  rwa [← parseLiteral, source_parseLiteral] at h

/-- The unresolved part of a literal shows the segments that did not resolve. -/
theorem slice_unresolvedSpan {n : Nat} (hn : n < (parseLiteral separators text).path.length) :
    ((parseLiteral separators text).unresolvedSpan n).slice text =
      String.intercalate (String.singleton separators.key)
        ((parseLiteral separators text).segments.drop n) := by
  obtain ⟨before, hlength, htext⟩ :=
    exists_text_eq (isExact_of_mem_parseLiteral separators text) hn
  rw [text_parseLiteral] at htext
  rw [unresolvedSpan, if_pos hn, length_parseLiteral, ← hlength]
  conv_lhs => rw [htext]
  exact Span.slice_suffix ..

/-- The namespace of a literal shows its text. -/
theorem slice_namespaceSpan {ns : Token} (hns : (parseLiteral separators text).ns? = some ns) :
    Span.slice ⟨0, ns.length⟩ text = ns.text := by
  have hexact : ns.length = ns.text.length :=
    isExact_of_mem_parseLiteral separators text ns (by simp [tokens, hns])
  obtain ⟨rest, htext⟩ := exists_text_eq_of_ns? hns
  rw [text_parseLiteral] at htext
  rw [hexact, htext]
  exact Span.slice_prefix ..

end Literal

end Key

end MessageKeys
