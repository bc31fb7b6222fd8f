import MessageKeys.Proofs.Key.Literal

/-!
# Reading a key back

The text of a key is its namespace and its path with their separators. For a literal this is the
literal itself. For any other expression it is the evaluated text up to the separators that are
swallowed, so that reading it as a literal gives the same segments; and the same namespace, unless
that contains a namespace separator. It can: a separator in a literal counts before one in an
interpolated value, also if the value stands before it. In the text of the key the first one counts.

## Main definitions

* `MessageKeys.Token.IsExact` — a token spans as many source characters as its text has.

## Main results

* `MessageKeys.Key.toList_text` — the text of a key from its parts.
* `MessageKeys.Key.isExact_of_mem_parseLiteral` — the lengths of the tokens of a literal.
* `MessageKeys.Key.parseLiteral_text` — when a key is read back from its text.
-/

namespace MessageKeys

/-! ### Separators in the path -/

/-- All characters that are kept come from the text. -/
theorem Mark.mem_of_mem_keep {key c : Char} {ms : List Mark} (h : c ∈ keep key ms) :
    c ∈ ms.map char := by
  induction ms using List.reverseRecOn with
  | nil => cases h
  | append_singleton ms m ih =>
    rw [keep_append_singleton] at h
    rw [List.map_append, List.mem_append]
    split_ifs at h with hrep
    · exact .inl (ih h)
    · exact (List.mem_append.mp h).imp ih id

namespace Reading

variable {separators : Separators} {fragments : List Fragment}

/-- Without a boundary no namespace separator stands in the path. -/
theorem ns_notMem_pathText (h : (ofFragments separators fragments).boundary? = none) :
    separators.ns ∉ (ofFragments separators fragments).pathText (Fragment.allMarks fragments) := by
  have hfind : Boundary.find? separators.ns fragments = none := by
    simpa [ofFragments] using h
  rw [pathText, h]
  intro hmem
  have hchar := Mark.mem_of_mem_keep hmem
  rw [Fragment.map_char_allMarks] at hchar
  obtain ⟨f, hf, hns⟩ := List.mem_flatMap.mp hchar
  exact Boundary.find?_eq_none_iff.mp hfind f hf hns

end Reading

/-! ### The tokens of a literal -/

/-- A token spans as many source characters as its text has. -/
def Token.IsExact (t : Token) : Prop := t.length = t.text.length

namespace Segments

variable {s : Segments}

theorem isExact_closeToken (h : ∀ t ∈ s.tokens, t.IsExact) :
    ∀ t ∈ s.closeToken.tokens, t.IsExact := by
  rw [tokens, closeToken, List.forall_mem_append]
  exact ⟨h, List.forall_mem_singleton.mpr rfl⟩

theorem isExact_receive (h : ∀ t ∈ s.tokens, t.IsExact) (c : Char) :
    ∀ t ∈ (s.receive c 1).tokens, t.IsExact := by
  rw [tokens, List.forall_mem_append, List.forall_mem_singleton] at h
  rw [tokens, receive, List.forall_mem_append, List.forall_mem_singleton]
  refine ⟨h.1, ?_⟩
  have hcurrent : s.current.length = s.current.text.length := h.2
  simp [Token.IsExact, Token.receive, hcurrent]

/-- Each character of a literal adds one to the length of the token that receives it. -/
theorem isExact_feedLiteral (key : Char) (here? : Option Nat) (cs : List Char)
    (h : ∀ t ∈ s.tokens, t.IsExact) : ∀ t ∈ (feedLiteral key here? cs s).tokens, t.IsExact := by
  induction cs generalizing s here? with
  | nil => simpa [feedLiteral] using h
  | cons c cs ih =>
    by_cases h0 : here? = some 0
    · subst h0
      rw [feedLiteral_cons_zero]
      exact ih none (isExact_closeToken h)
    · rw [feedLiteral_cons h0]
      refine ih _ ?_
      split_ifs
      · exact isExact_closeToken h
      · exact isExact_receive h c

end Segments

namespace Key

variable {separators : Separators} {k : Key}

/-- The tokens of a literal span their texts. -/
theorem isExact_of_mem_parseLiteral (separators : Separators) (text : String) :
    ∀ t ∈ (parseLiteral separators text).tokens, t.IsExact := by
  rw [tokens_eq_of_finish (k := parseLiteral separators text) rfl]
  exact Segments.isExact_feedLiteral _ _ _ (List.forall_mem_singleton.mpr rfl)

theorem lengths_eq_of_isExact (h : ∀ t ∈ k.tokens, t.IsExact) :
    k.ns?.map Token.length = k.namespaceText?.map String.length ∧
      k.path.map Token.length = k.segments.map String.length := by
  rw [tokens, List.forall_mem_append] at h
  rw [namespaceText?, segments, Option.map_map, List.map_map]
  exact ⟨Option.map_congr fun t ht => h.1 t (by simp [ht]), List.map_congr_left h.2⟩

/-! ### The text of a key -/

/-- The text of a key whose segments are the pieces of a text: the namespace and its separator, and
that text. -/
theorem toList_text (ns? : Option (List Char)) (path : List Char)
    (hns : k.namespaceText? = ns?.map String.ofList)
    (hpath : k.segments = (path.splitOn k.separators.key).map String.ofList) :
    k.text.toList = (ns?.map (· ++ [k.separators.ns])).getD [] ++ path := by
  have hsegments : (String.intercalate (String.singleton k.separators.key) k.segments).toList =
      path := by
    rw [String.toList_intercalate, hpath, List.map_map]
    simp [Function.comp_def, List.intercalate_splitOn]
  rw [text, String.toList_append, hsegments]
  rw [namespaceText?] at hns
  cases hk : k.ns? with
  | none =>
    rw [hk, Option.map_none, eq_comm, Option.map_eq_none_iff] at hns
    simp [hns]
  | some t =>
    rw [hk, Option.map_some, eq_comm, Option.map_eq_some_iff] at hns
    obtain ⟨ns, rfl, ht⟩ := hns
    simp [← ht]

theorem toList_text_parse (separators : Separators) (fragments : List Fragment) :
    let r := Reading.ofFragments separators fragments
    let ms := Fragment.allMarks fragments
    (parse separators fragments).text.toList =
      ((r.nsText? ms).map (· ++ [separators.ns])).getD [] ++ r.pathText ms :=
  toList_text _ _ (namespaceText?_parse separators fragments) (segments_parse separators fragments)

/-! ### Reading a text -/

section Literal

variable {text : String} {start rest : List Char}

/-- A text without namespace separator is all path. -/
theorem parseLiteral_of_notMem (h : separators.ns ∉ text.toList) :
    (parseLiteral separators text).namespaceText? = none ∧
      (parseLiteral separators text).segments =
        (text.toList.splitOn separators.key).map String.ofList := by
  rw [namespaceText?_parseLiteral, segments_parseLiteral, literalPath,
    List.idxOf?_eq_none_iff.mpr h]
  exact ⟨rfl, rfl⟩

/-- A text is cut at its first namespace separator. -/
theorem parseLiteral_of_append (htext : text.toList = start ++ separators.ns :: rest)
    (h : separators.ns ∉ start) :
    (parseLiteral separators text).namespaceText? = some (String.ofList start) ∧
      (parseLiteral separators text).segments =
        (rest.splitOn separators.key).map String.ofList := by
  have hidx : text.toList.idxOf? separators.ns = some start.length :=
    Boundary.idxOf?_eq_some_iff_append.mpr ⟨start, rest, htext, h, rfl⟩
  rw [namespaceText?_parseLiteral, segments_parseLiteral, literalPath, hidx, htext]
  simp

/-- The namespace of a literal has no namespace separator. -/
theorem ns_notMem_namespaceText?_parseLiteral {ns : String}
    (h : (parseLiteral separators text).namespaceText? = some ns) :
    separators.ns ∉ ns.toList := by
  rw [namespaceText?_parseLiteral] at h
  obtain ⟨n, hn, rfl⟩ := Option.map_eq_some_iff.mp h
  obtain ⟨start, rest, htext, hstart, rfl⟩ := Boundary.idxOf?_eq_some_iff_append.mp hn
  simpa [htext] using hstart

/-- The text of a literal is the literal. -/
theorem text_parseLiteral (separators : Separators) (text : String) :
    (parseLiteral separators text).text = text := by
  rw [← String.toList_inj]
  cases hidx : text.toList.idxOf? separators.ns with
  | none =>
    obtain ⟨hns, hpath⟩ := parseLiteral_of_notMem (List.idxOf?_eq_none_iff.mp hidx)
    exact toList_text none _ hns hpath
  | some n =>
    obtain ⟨start, rest, htext, hstart, -⟩ := Boundary.idxOf?_eq_some_iff_append.mp hidx
    obtain ⟨hns, hpath⟩ := parseLiteral_of_append htext hstart
    rw [toList_text (some start) rest hns hpath, htext]
    simp [parseLiteral, parse]

end Literal

/-- The text of a key is read back with the same namespace and the same segments, if the namespace
has no namespace separator. -/
theorem parseLiteral_text_parse (separators : Separators) (fragments : List Fragment)
    (h : ∀ ns, (parse separators fragments).namespaceText? = some ns →
      separators.ns ∉ ns.toList) :
    let k := parse separators fragments
    (parseLiteral separators k.text).namespaceText? = k.namespaceText? ∧
      (parseLiteral separators k.text).segments = k.segments := by
  intro k
  have htext : k.text.toList = _ := toList_text_parse separators fragments
  have hns : k.namespaceText? = _ := namespaceText?_parse separators fragments
  have hpath : k.segments = _ := segments_parse separators fragments
  rw [hns, hpath]
  cases hread : (Reading.ofFragments separators fragments).nsText?
      (Fragment.allMarks fragments) with
  | none =>
    rw [hread, Option.map_none, Option.getD_none, List.nil_append] at htext
    have hboundary : (Reading.ofFragments separators fragments).boundary? = none := by
      simpa [Reading.nsText?] using hread
    have hnotMem := Reading.ns_notMem_pathText hboundary
    rw [← htext] at hnotMem ⊢
    exact parseLiteral_of_notMem hnotMem
  | some ns =>
    rw [hread, Option.map_some, Option.getD_some, List.append_assoc, List.singleton_append] at htext
    have hnotMem := h (String.ofList ns) (hns.trans (by rw [hread, Option.map_some]))
    rw [String.toList_ofList] at hnotMem
    exact parseLiteral_of_append htext hnotMem

/-- **Reading a key back.** The text of a literal is the literal. The text of any key is read back
as a key with the same namespace, or none, and the same segments, exactly if its namespace has no
namespace separator; then each token spans as many characters as its text has. -/
theorem parseLiteral_text (separators : Separators) :
    (∀ text : String, (parseLiteral separators text).text = text) ∧
    ∀ fragments : List Fragment,
      let k := parse separators fragments
      let again := parseLiteral separators k.text
      (again.namespaceText? = k.namespaceText? ∧ again.segments = k.segments ↔
        ∀ ns, k.namespaceText? = some ns → separators.ns ∉ ns.toList) ∧
      ((∀ ns, k.namespaceText? = some ns → separators.ns ∉ ns.toList) →
        again.ns?.map Token.length = k.namespaceText?.map String.length ∧
        again.path.map Token.length = k.segments.map String.length) := by
  refine ⟨text_parseLiteral separators, ?_⟩
  intro fragments k again
  have hback := parseLiteral_text_parse separators fragments
  refine ⟨⟨?_, hback⟩, ?_⟩
  · rintro ⟨hns, -⟩ ns hk
    exact ns_notMem_namespaceText?_parseLiteral (hns.trans hk)
  · intro h
    obtain ⟨hns, hsegments⟩ := hback h
    rw [← hns, ← hsegments]
    exact lengths_eq_of_isExact (isExact_of_mem_parseLiteral separators k.text)

/-- The separator in the literal is the boundary, and the one in the value stays in the namespace;
in the text of the key the latter is the first. -/
example :
    let k := parse {} [.interpolated "x" "a:b", .literal "c:d"]
    k.namespaceText? = some "a:bc" ∧ (parseLiteral {} k.text).namespaceText? = some "a" := by
  decide +kernel

end Key

end MessageKeys
