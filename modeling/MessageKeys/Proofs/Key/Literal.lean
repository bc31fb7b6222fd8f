import MessageKeys.Proofs.Key.Segmentation

/-!
# Keys that are literals

In a literal nothing is swallowed: the namespace is the text before the first namespace separator,
and the segments are the pieces of the text behind it. A text without separators that is added at
the end therefore only makes the last segment longer.

## Main definitions

* `MessageKeys.Key.literalPath` — the text behind the first namespace separator, or all of it.

## Main results

* `MessageKeys.Key.namespaceText?_parseLiteral`, `MessageKeys.Key.segments_parseLiteral` — the
  texts of a key that is a literal.
* `MessageKeys.Key.parseLiteral_append` — a literal with more text at its end.
-/

namespace MessageKeys

/-! ### Readings of a literal -/

/-- Nothing is swallowed in a literal. -/
theorem Mark.keep_row_false (key : Char) (cs : List Char) :
    Mark.keep key (Mark.row false cs) = cs := by
  induction cs using List.reverseRecOn with
  | nil => rfl
  | append_singleton cs c ih =>
    rw [Mark.row_false_append, Mark.row, Mark.row_nil, Mark.keep_append_singleton, ih]
    simp [Mark.repeats]

theorem Boundary.find?_literal (ns : Char) (text : String) :
    Boundary.find? ns [.literal text] = (text.toList.idxOf? ns).map fun n => ⟨0, n⟩ := by
  cases h : text.toList.idxOf? ns <;> simp [find?, first?, Fragment.isLiteral, h]

theorem Fragment.allMarks_literal (text : String) :
    allMarks [.literal text] = Mark.row false text.toList :=
  List.append_nil _

theorem Reading.boundary?_literal (separators : Separators) (text : String) :
    (ofFragments separators [.literal text]).boundary? = text.toList.idxOf? separators.ns := by
  rw [ofFragments, Boundary.find?_literal, Option.map_map]
  simp [Function.comp_def]

namespace Key

/-- The text behind the first namespace separator, or all text if there is none. -/
def literalPath (ns : Char) (cs : List Char) : List Char :=
  match cs.idxOf? ns with
  | none => cs
  | some n => cs.drop (n + 1)

variable (separators : Separators) (text : String)

theorem namespaceText?_parseLiteral :
    (parseLiteral separators text).namespaceText? =
      (text.toList.idxOf? separators.ns).map fun n => String.ofList (text.toList.take n) := by
  rw [parseLiteral, namespaceText?_parse, Reading.nsText?, Reading.boundary?_literal,
    Option.map_map, Fragment.allMarks_literal]
  simp [Function.comp_def, List.map_take, Mark.map_char_row]

theorem segments_parseLiteral :
    (parseLiteral separators text).segments =
      ((literalPath separators.ns text.toList).splitOn separators.key).map String.ofList := by
  have hpath : (Reading.ofFragments separators [.literal text]).pathText
      (Fragment.allMarks [.literal text]) = literalPath separators.ns text.toList := by
    rw [Reading.pathText, Reading.boundary?_literal, Fragment.allMarks_literal, literalPath]
    cases text.toList.idxOf? separators.ns with
    | none => exact Mark.keep_row_false ..
    | some n =>
      simp only
      rw [Mark.row_false_eq_map, ← List.map_drop, ← Mark.row_false_eq_map, Mark.keep_row_false]
  rw [parseLiteral, segments_parse, hpath]

/-! ### More text at the end -/

theorem literalPath_append {ns : Char} {cs ds : List Char} (h : ns ∉ ds) :
    literalPath ns (cs ++ ds) = literalPath ns cs ++ ds := by
  rw [literalPath, literalPath, Boundary.idxOf?_append_of_notMem h]
  cases hcs : cs.idxOf? ns with
  | none => rfl
  | some n =>
    obtain ⟨start, rest, rfl, -, rfl⟩ := Boundary.idxOf?_eq_some_iff_append.mp hcs
    exact List.drop_append_of_le_length (by simp)

/-- A text without separators at the end of a literal leaves the namespace and all segments but the
last one as they are. -/
theorem parseLiteral_append {more : String} (hns : separators.ns ∉ more.toList)
    (hkey : separators.key ∉ more.toList) :
    (parseLiteral separators (text ++ more)).namespaceText? =
      (parseLiteral separators text).namespaceText? ∧
    ∃ fixed last, (parseLiteral separators text).segments = fixed ++ [last] ∧
      (parseLiteral separators (text ++ more)).segments = fixed ++ [last ++ more] := by
  refine ⟨?_, ?_⟩
  · rw [namespaceText?_parseLiteral, namespaceText?_parseLiteral, String.toList_append,
      Boundary.idxOf?_append_of_notMem hns]
    cases htext : text.toList.idxOf? separators.ns with
    | none => rfl
    | some n =>
      obtain ⟨start, rest, hsplit, -, rfl⟩ := Boundary.idxOf?_eq_some_iff_append.mp htext
      rw [Option.map_some, Option.map_some, List.take_append_of_le_length (by simp [hsplit])]
  · obtain ⟨closed, last, hsplit⟩ :=
      Reading.exists_splitOn_eq separators.key (literalPath separators.ns text.toList)
    refine ⟨closed.map String.ofList, String.ofList last, ?_, ?_⟩
    · rw [segments_parseLiteral, hsplit, List.map_append, List.map_singleton]
    · rw [segments_parseLiteral, String.toList_append, literalPath_append hns,
        Reading.splitOn_append_of_notMem hsplit hkey, List.map_append, List.map_singleton,
        String.ofList_append, String.ofList_toList]

end Key

end MessageKeys
