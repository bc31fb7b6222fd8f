import Mathlib.Data.List.Nodup
import Mathlib.Logic.Relation
import Mathlib.Tactic.SplitIfs
import MessageKeys.Document.Node

/-!
# Children of nodes in their own format

In a node of a document, a value in its own format, children are looked up in two ways: under a
name, and by listing those whose names are meant. Both ways agree, in both formats, and the tree of
a node has the children that the node has. What is listed can be looked up, therefore, and what is
looked up is listed.

## Main definitions

* `MessageKeys.DocumentNode.IsChildOf` — a node is listed among the children of another.

## Main results

* `MessageKeys.DocumentNode.childrenWith_tree`, `MessageKeys.DocumentNode.child?_tree` — the
  children of a node in its tree.
* `MessageKeys.DocumentNode.nodup_names_of_merged` — the names in a JSON document are distinct.
* `MessageKeys.DocumentNode.children_agree` — listing and looking up agree.
-/

namespace MessageKeys

/-- What is looked up is what stands behind the first entry of its name. -/
theorem lookup_eq_find? {α : Type} (name : String) (entries : List (String × α)) :
    entries.lookup name = (entries.find? fun entry => entry.1 == name).map Prod.snd := by
  induction entries with
  | nil => rfl
  | cons entry entries ih =>
    rw [List.lookup_cons, List.find?_cons, Bool.beq_comm, ih]
    cases entry.1 == name <;> rfl

/-! ### JSON values -/

namespace Json

/-- The value under a name is that of the first member listed under it. -/
theorem member?_eq_find? (name : String) (j : Json) :
    j.member? name = ((j.membersWith .any).find? fun member => member.1 == name).map Prod.snd := by
  cases j with
  | object members =>
    simp only [member?, membersWith, NamePattern.admits, List.filter_true]
    exact lookup_eq_find? name members
  | _ => rfl

theorem memberTrees_eq_map (members : List (String × Json)) :
    memberTrees members = members.map (Prod.map id tree) := by
  induction members with
  | nil => rfl
  | cons member members ih => rw [memberTrees, ih, List.map_cons, Prod.map_apply, id]

/-! ### One member for each name -/

theorem map_fst_put_of_mem {name : String} {members : List (String × Json)}
    (h : name ∈ members.map Prod.fst) (value : Json) :
    (put name value members).map Prod.fst = members.map Prod.fst := by
  induction members with
  | nil => cases h
  | cons member members ih =>
    rw [put]
    split_ifs with hname
    · rw [List.map_cons, List.map_cons, hname]
    · have hrest := (List.mem_cons.mp h).resolve_left (Ne.symm hname)
      rw [List.map_cons, List.map_cons, ih hrest]

theorem map_fst_put_of_notMem {name : String} {members : List (String × Json)}
    (h : name ∉ members.map Prod.fst) (value : Json) :
    (put name value members).map Prod.fst = members.map Prod.fst ++ [name] := by
  induction members with
  | nil => rfl
  | cons member members ih =>
    obtain ⟨hname, hrest⟩ := not_or.mp (mt List.mem_cons.mpr h)
    rw [put, if_neg (Ne.symm hname), List.map_cons, ih hrest, List.map_cons, List.cons_append]

theorem nodup_put {members : List (String × Json)} (h : (members.map Prod.fst).Nodup)
    (name : String) (value : Json) : ((put name value members).map Prod.fst).Nodup := by
  by_cases hmem : name ∈ members.map Prod.fst
  · rwa [map_fst_put_of_mem hmem]
  · rw [map_fst_put_of_notMem hmem]
    exact List.nodup_append_comm.mpr (List.nodup_cons.mpr ⟨hmem, h⟩)

theorem nodup_mergedMembers {done : List (String × Json)} (h : (done.map Prod.fst).Nodup)
    (members : List (String × Json)) : ((mergedMembers members done).map Prod.fst).Nodup := by
  induction members generalizing done with
  | nil => rwa [mergedMembers]
  | cons member members ih =>
    rw [mergedMembers]
    exact ih (nodup_put h ..)

theorem mem_put {name : String} {value : Json} {members : List (String × Json)}
    {member : String × Json} (h : member ∈ put name value members) :
    member = (name, value) ∨ member ∈ members := by
  induction members with
  | nil => exact .inl (List.mem_singleton.mp h)
  | cons other members ih =>
    rw [put] at h
    split_ifs at h
    · exact (List.mem_cons.mp h).imp_right (List.mem_cons_of_mem _)
    · rcases List.mem_cons.mp h with rfl | h
      · exact .inr List.mem_cons_self
      · exact (ih h).imp_right (List.mem_cons_of_mem _)

/-- What is merged has merged members. -/
theorem exists_merged_of_mem {members done : List (String × Json)} {member : String × Json}
    (h : member ∈ mergedMembers members done) : member ∈ done ∨ ∃ v, member.2 = merged v := by
  induction members generalizing done with
  | nil => exact .inl (by rwa [mergedMembers] at h)
  | cons first members ih =>
    rw [mergedMembers] at h
    rcases ih h with h | h
    · rcases mem_put h with rfl | h
      · exact .inr ⟨_, rfl⟩
      · exact .inl h
    · exact .inr h

end Json

/-! ### YAML values -/

namespace Yaml

theorem tree_untagged : (y : Yaml) → y.untagged.tree = y.tree
  | tagged _ value => by rw [untagged, tree_untagged value, tree]
  | null | bool _ | number _ | string _ | sequence _ | mapping _ => rfl

theorem untagged_ne_tagged (tag : String) (value : Yaml) :
    (y : Yaml) → y.untagged ≠ tagged tag value
  | tagged _ y => by rw [untagged]; exact untagged_ne_tagged tag value y
  | null | bool _ | number _ | string _ | sequence _ | mapping _ => by simp [untagged]

theorem entryTrees_eq_map (entries : List (Yaml × Yaml)) :
    entryTrees entries = (entries.filterMap named?).map (Prod.map id tree) := by
  induction entries with
  | nil => rfl
  | cons entry entries ih =>
    rw [entryTrees, List.filterMap_cons, ih, named?]
    cases entry.1.nameText? <;> rfl

/-- Without its tags a value is a mapping, or it has no entries and its tree is a leaf. -/
theorem untagged_cases (y : Yaml) :
    (∃ entries, y.untagged = mapping entries ∧ y.tree = .branch (entryTrees entries)) ∨
      y.isMapping = false ∧ (∀ pattern, y.entriesWith pattern = []) ∧
        ∃ value?, y.tree = .leaf value? := by
  rw [← tree_untagged, isMapping]
  unfold entriesWith
  cases h : y.untagged with
  | mapping entries => exact .inl ⟨entries, rfl, by rw [tree]⟩
  | tagged tag value => exact absurd h (untagged_ne_tagged tag value y)
  | null | bool _ | number _ | string _ | sequence _ =>
    exact .inr ⟨rfl, fun _ => rfl, _, by rw [tree]⟩

/-- Looking through the entries for a text finds the first one that is listed under it. -/
theorem entry?_eq_find? (name : String) (y : Yaml) :
    y.entry? name = ((y.entriesWith .any).find? fun entry => entry.1 == name).map Prod.snd := by
  unfold entry? entriesWith
  cases y.untagged with
  | mapping entries =>
    have hany : (fun entry : Yaml × Yaml => (named? entry).any fun listed => listed.1 == name) =
        fun entry => entry.1.nameText? == some name := by
      funext entry
      rw [named?]
      cases entry.1.nameText? <;> rfl
    simp only [NamePattern.admits, List.filter_true, List.find?_filterMap, hany]
    cases hfound : entries.find? fun entry => entry.1.nameText? == some name with
    | none => rfl
    | some entry =>
      have htext : entry.1.nameText? = some name := by
        simpa using List.find?_some hfound
      simp [named?, htext]
  | _ => rfl

end Yaml

/-! ### Nodes of both formats -/

namespace DocumentNode

/-- A node is listed among the children of another. -/
def IsChildOf (child n : DocumentNode) : Prop := ∃ name, (name, child) ∈ n.childrenWith .any

/-! ### The tree of a node -/

theorem isBranch_tree : (n : DocumentNode) → n.tree.isBranch = n.isBranch
  | json value => by cases value <;> rfl
  | yaml value => by
    rw [tree, isBranch]
    obtain ⟨entries, hmapping, htree⟩ | ⟨hleaf, -, value?, htree⟩ := value.untagged_cases
    · rw [htree, Yaml.isMapping, hmapping]
      rfl
    · rw [htree, hleaf]
      rfl

/-- The tree of a node has the children that the document has. -/
theorem childrenWith_tree (pattern : NamePattern) : (n : DocumentNode) →
    n.tree.childrenWith pattern = (n.childrenWith pattern).map (Prod.map id tree)
  | json value => by
    cases value with
    | object members =>
      simp [tree, childrenWith, Json.membersWith, Json.tree, Tree.childrenWith,
        Json.memberTrees_eq_map, List.filter_map, Function.comp_def]
    | _ => rfl
  | yaml value => by
    rw [tree, childrenWith]
    obtain ⟨entries, hmapping, htree⟩ | ⟨-, hnone, value?, htree⟩ := value.untagged_cases
    · simp [tree, htree, Yaml.entriesWith, hmapping, Tree.childrenWith,
        Yaml.entryTrees_eq_map, List.filter_map, Function.comp_def]
    · rw [htree, hnone]
      rfl

theorem child?_eq_find? (name : String) : (n : DocumentNode) →
    n.child? name = ((n.childrenWith .any).find? fun c => c.1 == name).map Prod.snd
  | json value => by
    simp [child?, childrenWith, Json.member?_eq_find?, List.find?_map, Function.comp_def]
  | yaml value => by
    simp [child?, childrenWith, Yaml.entry?_eq_find?, List.find?_map, Function.comp_def]

/-- The tree of a node finds the child that the document has under a name. -/
theorem child?_tree (name : String) (n : DocumentNode) :
    n.tree.child? name = (n.child? name).map tree := by
  have hany : n.tree.children = n.tree.childrenWith .any := by
    simp [Tree.childrenWith, NamePattern.admits]
  rw [Tree.child?, lookup_eq_find?, hany, childrenWith_tree, child?_eq_find?]
  simp [List.find?_map, Function.comp_def]

/-! ### Listing and looking up -/

theorem childrenWith_eq_filter (pattern : NamePattern) : (n : DocumentNode) →
    n.childrenWith pattern = (n.childrenWith .any).filter fun c => pattern.admits c.1
  | json value => by
    cases value <;> simp [childrenWith, Json.membersWith, NamePattern.admits, List.filter_map,
      Function.comp_def]
  | yaml value => by
    simp only [childrenWith, Yaml.entriesWith]
    cases value.untagged <;> simp [NamePattern.admits, List.filter_map, Function.comp_def]

theorem child?_eq_none_iff (name : String) (n : DocumentNode) :
    n.child? name = none ↔ ∀ c ∈ n.childrenWith .any, c.1 ≠ name := by
  simp [child?_eq_find?]

/-- A leaf has no children to list. -/
theorem childrenWith_of_leaf {n : DocumentNode} (h : n.isBranch = false) (pattern : NamePattern) :
    n.childrenWith pattern = [] := by
  have htree := n.childrenWith_tree pattern
  rw [← isBranch_tree] at h
  cases hleaf : n.tree with
  | leaf value? =>
    rw [hleaf] at htree
    exact List.map_eq_nil_iff.mp htree.symm
  | branch children => simp [hleaf, Tree.isBranch] at h

/-! ### Names in a JSON document -/

theorem nodup_names_merged (j : Json) : (json j.merged).names.Nodup := by
  cases j with
  | object members =>
    have hnone : (([] : List (String × Json)).map Prod.fst).Nodup := List.nodup_nil
    simpa [names, childrenWith, Json.merged, Json.membersWith, NamePattern.admits,
      Function.comp_def] using Json.nodup_mergedMembers hnone members
  | _ => exact List.nodup_nil

/-- A child of a value without repeated names is one too. -/
theorem IsChildOf.exists_merged {n : DocumentNode} {j : Json} (h : n.IsChildOf (json j.merged)) :
    ∃ v : Json, n = json v.merged := by
  obtain ⟨name, hmem⟩ := h
  obtain ⟨⟨other, child⟩, hmember, heq⟩ := List.mem_map.mp hmem
  cases j with
  | object members =>
    rw [Json.merged] at hmember
    obtain hnil | ⟨v, hv⟩ := Json.exists_merged_of_mem (List.mem_of_mem_filter hmember)
    · cases hnil
    · exact ⟨v, by rw [← hv]; exact (congrArg Prod.snd heq).symm⟩
  | _ => cases hmember

/-- All nodes of a JSON document without repeated names have distinct names below them. -/
theorem nodup_names_of_merged {n : DocumentNode} {j : Json}
    (h : Relation.ReflTransGen (fun m child => IsChildOf child m) (json j.merged) n) :
    n.names.Nodup := by
  have hmerged : ∃ v : Json, n = json v.merged := by
    induction h with
    | refl => exact ⟨j, rfl⟩
    | tail _ hchild ih =>
      obtain ⟨v, rfl⟩ := ih
      exact hchild.exists_merged
  obtain ⟨v, rfl⟩ := hmerged
  exact nodup_names_merged v

/-- **Listing and looking up.** In a node of either format the children with certain names are
those, in order, among all children whose names are meant. Under a name the first child is found
that is listed with this name, and none if no child is. A leaf has none either way. The tree of the
node is a branch if the node is, and has the same children under the same names, for every pattern
and every name. In a JSON document without repeated names, as every one is that is read, the names
of the children of every node are distinct. -/
theorem children_agree (n : DocumentNode) :
    (∀ pattern,
      n.childrenWith pattern = (n.childrenWith .any).filter fun c => pattern.admits c.1) ∧
    (∀ name,
      n.child? name = ((n.childrenWith .any).find? fun c => c.1 == name).map Prod.snd ∧
      (n.child? name = none ↔ ∀ c ∈ n.childrenWith .any, c.1 ≠ name)) ∧
    (n.isBranch = false →
      (∀ pattern, n.childrenWith pattern = []) ∧ ∀ name, n.child? name = none) ∧
    n.tree.isBranch = n.isBranch ∧
    (∀ pattern, n.tree.childrenWith pattern = (n.childrenWith pattern).map (Prod.map id tree)) ∧
    (∀ name, n.tree.child? name = (n.child? name).map tree) ∧
    ∀ (j : Json) (m : DocumentNode),
      Relation.ReflTransGen (fun parent child => IsChildOf child parent) (json j.merged) m →
        m.names.Nodup := by
  refine ⟨fun pattern => n.childrenWith_eq_filter pattern,
    fun name => ⟨n.child?_eq_find? name, n.child?_eq_none_iff name⟩, fun hleaf => ⟨?_, ?_⟩,
    n.isBranch_tree, fun pattern => n.childrenWith_tree pattern, fun name => n.child?_tree name,
    fun _ _ => nodup_names_of_merged⟩
  · exact childrenWith_of_leaf hleaf
  · intro name
    rw [child?_eq_none_iff, childrenWith_of_leaf hleaf]
    exact List.forall_mem_nil _

/-- Two names of the mapping have the same text: both entries are listed, and the first is found.
The entry whose name is a list has no text and is passed over. -/
example :
    let n := yaml (.tagged "!all" (.mapping
      [(.sequence [], .string "a"), (.tagged "!one" (.number (.integer 1)), .string "b"),
        (.string "1", .string "c")]))
    n.names = ["1", "1"] ∧ n.child? "1" = some (yaml (.string "b")) ∧ n.child? "a" = none :=
  ⟨rfl, rfl, rfl⟩

end DocumentNode

end MessageKeys
