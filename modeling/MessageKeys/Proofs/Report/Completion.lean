import MessageKeys.Proofs.Key.Literal
import MessageKeys.Proofs.Report.Severity

/-!
# Completions that can be used

What can follow a partly typed key is meant to be typed: the key with it should resolve. A
completion looks up all segments but the last one as a key of their own, so that the last of *them*
may be taken for a plural form. In the completed key that segment is followed by another one and has
no plural forms. So a key with `item_one` is offered what is below it behind `item.`, and the
completed key does not resolve.

The key resolves exactly if some document has the completed name where the other segments lead by
themselves.

## Main results

* `MessageKeys.Catalog.mem_complete_iff` — what is offered behind a partly typed key.
* `MessageKeys.Catalog.reportOn_of_mem_complete` — when a completed key is not reported as an error.
* `MessageKeys.Catalog.exists_mem_complete_error` — a completed key that is.
-/

namespace MessageKeys

namespace Tree

variable {rules : PluralRules} {t : Tree} {fixed : List String} {name : String}

/-- Nothing resolves of a key whose first segment is no child, if it is not the only one. -/
theorem path_resolve_eq_nil_of_follow? (h : t.follow? (fixed.take 1) = none) :
    (t.resolve rules (fixed ++ [name])).path = [] := by
  cases fixed with
  | nil => simp [follow?] at h
  | cons first fixed =>
    have hchild : t.child? first = none := by simpa [follow?] using h
    exact (path_resolve_eq_nil_iff (by simp)).mpr hchild

/-- If nothing resolves of a key, its first segment is no child, unless it is the only one. -/
theorem follow?_of_path_resolve_eq_nil (h : (t.resolve rules (fixed ++ [name])).path = [])
    (hfixed : fixed ≠ []) : t.follow? (fixed.take 1) = none := by
  cases fixed with
  | nil => exact absurd rfl hfixed
  | cons first fixed =>
    have hchild := (path_resolve_eq_nil_iff (by simp)).mp h
    simp [follow?, hchild]

end Tree

namespace Catalog

variable {catalog : Catalog} {config : Config} {typed more last : String} {fixed : List String}

/-- What is offered behind a partly typed key: the remainders of the children of its other segments
in the documents of its namespace. -/
theorem mem_complete_iff
    (hsegments : (Key.parseLiteral config.separators typed).segments = fixed ++ [last]) :
    more ∈ catalog.complete config typed ↔
      ∃ d ∈ catalog.candidates (config.namespaceOf (Key.parseLiteral config.separators typed)),
        ∃ node, d.tree.find? config.pluralRules fixed = some node ∧
          last ++ more ∈ node.childNames := by
  rw [complete, List.mem_eraseDups, List.mem_flatten, variants, hsegments]
  simp only [List.mem_map, exists_exists_and_eq_and, Tree.mem_variants_iff]

/-- What is offered behind a single segment resolves. -/
theorem exists_isResolved_of_mem_complete
    (hsegments : (Key.parseLiteral config.separators typed).segments = [last])
    (hmem : more ∈ catalog.complete config typed) :
    ∃ d ∈ catalog.candidates (config.namespaceOf (Key.parseLiteral config.separators typed)),
      (d.tree.resolve config.pluralRules [last ++ more]).isResolved := by
  rw [← List.nil_append [last]] at hsegments
  obtain ⟨d, hd, node, hnode, hname⟩ := (mem_complete_iff hsegments).mp hmem
  obtain rfl : d.tree = node := by
    simpa [Tree.find?, Tree.resolve, Reference.isResolved] using hnode
  exact ⟨d, hd, Tree.isResolved_resolve_singleton_iff.mpr (.inl (Tree.isSome_child?_iff.mpr hname))⟩

/-- The completed key is looked up in the same documents, with a longer last segment. -/
theorem severity?_reportOn_append (catalog : Catalog) (typed : String)
    (hns : config.nsSeparator ∉ more.toList) (hkey : config.keySeparator ∉ more.toList) :
    let k := Key.parseLiteral config.separators typed
    let documents := catalog.candidates (config.namespaceOf k)
    ∃ fixed last, k.segments = fixed ++ [last] ∧
      ((catalog.reportOn config [.literal (typed ++ more)]).severity? = some .error ↔
        documents = [] ∨
        (∀ d ∈ documents,
          (d.tree.resolve config.pluralRules (fixed ++ [last ++ more])).isResolved = false) ∧
          ¬ (k.hasNamespace = false ∧ config.suppressUnresolvedDefaultNs = true ∧
            ∀ d ∈ documents,
              (d.tree.resolve config.pluralRules (fixed ++ [last ++ more])).path = [])) := by
  intro k documents
  obtain ⟨htext, fixed, last, hsegments, hsegments'⟩ :=
    Key.parseLiteral_append config.separators typed hns hkey
  have hhas : (Key.parseLiteral config.separators (typed ++ more)).hasNamespace =
      k.hasNamespace := by
    have h := congrArg Option.isSome htext
    simpa [Key.namespaceText?, Key.hasNamespace] using h
  have hnamespace : config.namespaceOf (Key.parseLiteral config.separators (typed ++ more)) =
      config.namespaceOf k := by
    rw [Config.namespaceOf, Config.namespaceOf, htext]
  have h := severity?_reportOn_eq_error_iff catalog config [.literal (typed ++ more)]
  have hparse : Key.parse config.separators [.literal (typed ++ more)] =
      Key.parseLiteral config.separators (typed ++ more) := rfl
  simp only [hparse, hhas, hnamespace, hsegments'] at h
  exact ⟨fixed, last, hsegments, h⟩

/-- **Completed keys.** Let a text without separators be offered behind a partly typed key. The key
that it completes is not reported as an error exactly if some document of the namespace has the
completed name, or plural forms of it, where the segments before it lead by their own names; or if
the key names no namespace, what does not resolve there is passed over, and no document has even the
first segment. -/
theorem reportOn_of_mem_complete (hmem : more ∈ catalog.complete config typed)
    (hns : config.nsSeparator ∉ more.toList) (hkey : config.keySeparator ∉ more.toList) :
    let k := Key.parseLiteral config.separators typed
    let documents := catalog.candidates (config.namespaceOf k)
    ∃ fixed last, k.segments = fixed ++ [last] ∧
      ((catalog.reportOn config [.literal (typed ++ more)]).severity? ≠ some .error ↔
        (∃ d ∈ documents, ∃ node, d.tree.follow? fixed = some node ∧
          ((node.child? (last ++ more)).isSome ∨
            (node.pluralChild? config.pluralRules (last ++ more)).isSome)) ∨
        k.hasNamespace = false ∧ config.suppressUnresolvedDefaultNs = true ∧
          ∀ d ∈ documents, d.tree.follow? (fixed.take 1) = none) := by
  intro k documents
  obtain ⟨fixed, last, hsegments, herror⟩ := severity?_reportOn_append catalog typed hns hkey
  have hdocuments : documents ≠ [] := by
    obtain ⟨d, hd, -⟩ := (mem_complete_iff hsegments).mp hmem
    exact List.ne_nil_of_mem hd
  have hresolved : (∃ d ∈ documents,
      (d.tree.resolve config.pluralRules (fixed ++ [last ++ more])).isResolved) ↔
        ∃ d ∈ documents, ∃ node, d.tree.follow? fixed = some node ∧
          ((node.child? (last ++ more)).isSome ∨
            (node.pluralChild? config.pluralRules (last ++ more)).isSome) := by
    simp only [Tree.isResolved_resolve_iff]
  refine ⟨fixed, last, hsegments, ?_⟩
  rw [Ne, herror, ← hresolved]
  constructor
  · intro h
    by_cases hsome : ∃ d ∈ documents,
        (d.tree.resolve config.pluralRules (fixed ++ [last ++ more])).isResolved
    · exact .inl hsome
    · have hnone : ∀ d ∈ documents,
          (d.tree.resolve config.pluralRules (fixed ++ [last ++ more])).isResolved = false :=
        fun d hd => Bool.eq_false_iff.mpr fun hr => hsome ⟨d, hd, hr⟩
      obtain ⟨hhas, hsuppress, hpath⟩ := not_not.mp fun hn => h (.inr ⟨hnone, hn⟩)
      -- Behind a single segment nothing is offered but what resolves.
      have hfixed : fixed ≠ [] := by
        rintro rfl
        exact hsome (exists_isResolved_of_mem_complete hsegments hmem)
      exact .inr ⟨hhas, hsuppress, fun d hd =>
        Tree.follow?_of_path_resolve_eq_nil (hpath d hd) hfixed⟩
  · rintro (⟨d, hd, hr⟩ | ⟨hhas, hsuppress, hfollow⟩) (hnil | ⟨hnone, hn⟩)
    · exact hdocuments hnil
    · rw [hnone d hd] at hr
      cases hr
    · exact hdocuments hnil
    · exact hn ⟨hhas, hsuppress, fun d hd => Tree.path_resolve_eq_nil_of_follow? (hfollow d hd)⟩

/-- Behind a segment that is a child itself, what is offered can be used. -/
theorem reportOn_of_mem_complete_child :
    let cart : Json := .object [("title", .string "Cart")]
    let document : Document :=
      ⟨⟨["common.json"]⟩, "common", none, .json (.object [("cart", cart)])⟩
    let catalog := ofDocuments [document]
    "title" ∈ catalog.complete .default "common:cart." ∧
      (catalog.reportOn .default [.literal ("common:cart." ++ "title")]).severity? ≠
        some .error := by
  intro cart document catalog
  have hmem : "title" ∈ catalog.complete .default "common:cart." := by decide +kernel
  have hsegments : (Key.parseLiteral Config.default.separators "common:cart.").segments =
      ["cart"] ++ [""] := by
    decide +kernel
  have hnamespace : Config.default.namespaceOf
      (Key.parseLiteral Config.default.separators "common:cart.") = "common" := by
    decide +kernel
  have hdocument : document ∈ catalog.candidates "common" :=
    List.mem_filter.mpr ⟨List.mem_singleton_self _, by decide +kernel⟩
  obtain ⟨fixed, last, hkey, hiff⟩ :=
    reportOn_of_mem_complete hmem (by decide +kernel) (by decide +kernel)
  obtain ⟨rfl, rfl⟩ := List.append_singleton_inj.mp (hkey.symm.trans hsegments)
  rw [hnamespace] at hiff
  exact ⟨hmem, hiff.mpr (.inl ⟨document, hdocument, cart.tree, rfl, .inl (by decide +kernel)⟩)⟩

/-- Behind a segment that is only the name of plural forms, something is offered that cannot be
used: the completed key is reported as an error. -/
theorem exists_mem_complete_error :
    ∃ (catalog : Catalog) (config : Config) (typed more : String),
      config.validate = .ok () ∧ more ∈ catalog.complete config typed ∧
        config.nsSeparator ∉ more.toList ∧ config.keySeparator ∉ more.toList ∧
        (catalog.reportOn config [.literal (typed ++ more)]).severity? = some .error := by
  let value : Json :=
    .object [("cart", .object [("item_one", .object [("title", .string "One")])])]
  refine ⟨ofDocuments [⟨⟨["common.json"]⟩, "common", none, .json value⟩], .default,
    "common:cart.item.", "title", rfl, ?_, ?_, ?_, ?_⟩
  all_goals decide +kernel

end Catalog

end MessageKeys
