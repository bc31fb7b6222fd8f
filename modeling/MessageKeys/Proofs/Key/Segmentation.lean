import MessageKeys.Proofs.Key.Feeding

/-!
# The segments of a key

A key is described without its parser: the namespace is the resolved text before the boundary, and
the segments are what the key separator cuts the text behind it into, when the separators have been
taken out that open an interpolated value and only repeat the one before them.

## Main definitions

* `MessageKeys.Fragment.withoutSource` — a fragment of which only the value is known.

## Main results

* `MessageKeys.Key.texts_parse` — the texts of a key are those of the reading.
* `MessageKeys.Key.parse_segmentation` — the boundary, the namespace and the segments of a key.
-/

namespace MessageKeys

namespace Fragment

/-- A fragment of which only the value is known. -/
def withoutSource : Fragment → Fragment
  | literal text => literal text
  | interpolated _ value => interpolated "" value

@[simp] theorem resolved_withoutSource (f : Fragment) : f.withoutSource.resolved = f.resolved := by
  cases f <;> rfl

@[simp] theorem isLiteral_withoutSource (f : Fragment) :
    f.withoutSource.isLiteral = f.isLiteral := by
  cases f <;> rfl

@[simp] theorem marks_withoutSource (f : Fragment) : f.withoutSource.marks = f.marks := by
  cases f <;> rfl

@[simp] theorem allMarks_map_withoutSource (fragments : List Fragment) :
    allMarks (fragments.map withoutSource) = allMarks fragments := by
  simp [allMarks, List.flatMap_map]

/-- The characters of the evaluated text are those of the values. -/
theorem map_char_allMarks (fragments : List Fragment) :
    (allMarks fragments).map Mark.char = fragments.flatMap fun f => f.resolved.toList := by
  rw [allMarks, List.map_flatMap]
  congr 1
  funext f
  cases f <;> exact Mark.map_char_row ..

end Fragment

namespace Boundary

theorem first?_map_withoutSource (ns : Char) (counts : Fragment → Bool)
    (hcounts : ∀ f : Fragment, counts f.withoutSource = counts f) (fragments : List Fragment) :
    first? ns counts (fragments.map Fragment.withoutSource) = first? ns counts fragments := by
  induction fragments with
  | nil => rfl
  | cons f fs ih =>
    rw [List.map_cons, first?, first?, ih, hcounts, Fragment.resolved_withoutSource]

theorem find?_map_withoutSource (ns : Char) (fragments : List Fragment) :
    find? ns (fragments.map Fragment.withoutSource) = find? ns fragments := by
  rw [find?, find?, first?_map_withoutSource _ _ (by simp), first?_map_withoutSource _ _ (by simp)]

end Boundary

namespace Reading

variable (separators : Separators) (fragments : List Fragment)

/-- The sources of interpolated values do not matter to the reading. -/
theorem ofFragments_map_withoutSource :
    ofFragments separators (fragments.map Fragment.withoutSource) =
      ofFragments separators fragments := by
  simp only [ofFragments, Boundary.find?_map_withoutSource, Boundary.offset, ← List.map_take,
    Fragment.allMarks_map_withoutSource]

/-- Behind all fragments the path has begun. -/
theorem inPath_allMarks :
    (ofFragments separators fragments).inPath (Fragment.allMarks fragments) = true := by
  rw [inPath_eq_true_iff]
  intro n hn
  obtain ⟨b, hb, rfl⟩ := Option.map_eq_some_iff.mp hn
  exact (Boundary.liesIn_of_find? hb).offset_lt

end Reading

namespace Key

variable (separators : Separators) (fragments : List Fragment)

/-- The texts of a key are those that the reading finds in the evaluated text. -/
theorem texts_parse :
    let k := parse separators fragments
    let r := Reading.ofFragments separators fragments
    let ms := Fragment.allMarks fragments
    (k.ns?.map fun t => t.text.toList) = r.nsText? ms ∧
      (k.path.map fun t => t.text.toList) = (r.pathText ms).splitOn r.key := by
  intro k r ms
  obtain ⟨s, -, hreads, hfinish⟩ := exists_feeds_parse separators fragments
  have htexts := hreads.texts_finish (Reading.inPath_allMarks separators fragments)
  rw [← hfinish] at htexts
  exact htexts

theorem namespaceText?_parse :
    (parse separators fragments).namespaceText? =
      ((Reading.ofFragments separators fragments).nsText?
        (Fragment.allMarks fragments)).map String.ofList := by
  rw [← (texts_parse separators fragments).1, Option.map_map]
  simp [namespaceText?, Function.comp_def]

theorem segments_parse :
    (parse separators fragments).segments =
      (((Reading.ofFragments separators fragments).pathText
        (Fragment.allMarks fragments)).splitOn separators.key).map String.ofList := by
  have h := (texts_parse separators fragments).2
  change _ = List.splitOn separators.key _ at h
  rw [← h, List.map_map]
  simp [segments, Function.comp_def]

/-- **The segmentation of a key.** The boundary is the first namespace separator of the first
literal that has one, or else of the first interpolated value that has one. The namespace is there
exactly if the boundary is, and is all resolved text before it. The segments are the pieces between
the key separators of the text behind the boundary, or of all text, from which the separators have
been taken out that only repeat the one before them. The sources of interpolated values do not
matter. -/
theorem parse_segmentation (separators : Separators) (fragments : List Fragment) :
    let k := parse separators fragments
    let resolved := fragments.flatMap fun f => f.resolved.toList
    let ms := Fragment.allMarks fragments
    (∀ b, Boundary.find? separators.ns fragments = some b ↔
      Boundary.IsAt separators.ns fragments b) ∧
    (k.hasNamespace = true ↔ ∃ b, Boundary.IsAt separators.ns fragments b) ∧
    (∀ b, Boundary.IsAt separators.ns fragments b →
      k.namespaceText? = some (String.ofList (resolved.take (b.offset fragments))) ∧
      k.segments = ((Mark.keep separators.key (ms.drop (b.offset fragments + 1))).splitOn
        separators.key).map String.ofList) ∧
    ((∀ b, ¬ Boundary.IsAt separators.ns fragments b) →
      k.namespaceText? = none ∧
      k.segments = ((Mark.keep separators.key ms).splitOn separators.key).map String.ofList) ∧
    ∀ others : List Fragment,
      others.map Fragment.withoutSource = fragments.map Fragment.withoutSource →
        (parse separators others).namespaceText? = k.namespaceText? ∧
        (parse separators others).segments = k.segments := by
  intro k resolved ms
  have hfind (b : Boundary) : Boundary.find? separators.ns fragments = some b ↔
      Boundary.IsAt separators.ns fragments b :=
    Boundary.find?_eq_some_iff
  have hns : k.namespaceText? = _ := namespaceText?_parse separators fragments
  have hpath : k.segments = _ := segments_parse separators fragments
  refine ⟨hfind, ?_, ?_, ?_, ?_⟩
  · have hsome : k.hasNamespace = (Boundary.find? separators.ns fragments).isSome := by
      have h := congrArg Option.isSome hns
      simpa [namespaceText?, hasNamespace, Reading.nsText?, Reading.ofFragments] using h
    rw [hsome, Option.isSome_iff_exists]
    exact exists_congr hfind
  · intro b hb
    have hb' := (hfind b).mpr hb
    rw [hns, hpath]
    simp [Reading.nsText?, Reading.pathText, Reading.ofFragments, hb', List.map_take,
      Fragment.map_char_allMarks, resolved, ms]
  · intro hb
    have hnone : Boundary.find? separators.ns fragments = none :=
      Option.eq_none_iff_forall_ne_some.mpr fun b h => hb b ((hfind b).mp h)
    rw [hns, hpath]
    simp [Reading.nsText?, Reading.pathText, Reading.ofFragments, hnone, ms]
  · intro others h
    have hread : Reading.ofFragments separators others =
        Reading.ofFragments separators fragments := by
      rw [← Reading.ofFragments_map_withoutSource, h, Reading.ofFragments_map_withoutSource]
    have hmarks : Fragment.allMarks others = Fragment.allMarks fragments := by
      rw [← Fragment.allMarks_map_withoutSource, h, Fragment.allMarks_map_withoutSource]
    rw [hns, hpath, namespaceText?_parse, segments_parse, hread, hmarks]
    exact ⟨rfl, rfl⟩

/-- The separator that opens the value is swallowed, the others are not. -/
example : (parse {} [.literal "common:cart.", .interpolated "x" ".item.."]).segments =
    ["cart", "item", "", ""] := by
  decide +kernel

end Key

end MessageKeys
