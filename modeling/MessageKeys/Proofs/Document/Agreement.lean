import Mathlib.Data.List.Forall2
import MessageKeys.Proofs.Document.Nodes
import MessageKeys.Proofs.Resolve.LongestPrefix

/-!
# Documents of both formats

A JSON document and a YAML document agree if they say the same: the same text, truth value or whole
number, or nothing; lists whose items agree; or an object and a mapping whose entries have the same
names, in the same order, with values that agree. In YAML tags are looked through wherever they
stand, also on names and on the items of a list; a name may be a number or a truth value, which is
read as its text; and an entry whose name has no text is passed over. Numbers that are not whole are
left out, because the two formats spell them differently.

Documents that agree give the same answers: they have the same children and the same messages, every
key goes equally far in both, to nodes that agree again, and the same completions are offered.

## Main definitions

* `MessageKeys.Yaml.Spells` — a name in a mapping has a text.
* `MessageKeys.Json.AgreesWith` — a JSON document agrees with a YAML document.
* `MessageKeys.DocumentNode.AgreesWith` — two nodes are values that agree.
* `MessageKeys.DocumentNode.follow?` — the node that names lead to.

## Main results

* `MessageKeys.Yaml.nameText?_eq_some_iff` — the text that a name spells.
* `MessageKeys.Json.AgreesWith.tree_eq` — the trees of documents that agree.
* `MessageKeys.Json.AgreesWith.forall₂_childrenWith`, `MessageKeys.Json.AgreesWith.rel_follow?` —
  their children, and the nodes that names lead to, agree.
* `MessageKeys.Json.AgreesWith.same_answers` — the answers of documents that agree.
-/

namespace MessageKeys

/-! ### Names in a mapping -/

namespace Yaml

/-- A name in a mapping has a text if it is a string, a number or a truth value, under any tags. -/
inductive Spells : Yaml → String → Prop
  | string (text : String) : Spells (.string text) text
  | number (value : Number) : Spells (.number value) value.text
  | bool (value : Bool) : Spells (.bool value) (if value then "true" else "false")
  | tagged (tag : String) {name : Yaml} {text : String} (h : Spells name text) :
    Spells (.tagged tag name) text

theorem spells_of_nameText? {text : String} : (name : Yaml) → name.nameText? = some text →
    name.Spells text
  | .string _, h => Option.some_inj.mp h ▸ .string _
  | .number _, h => Option.some_inj.mp h ▸ .number _
  | .bool _, h => Option.some_inj.mp h ▸ .bool _
  | .tagged tag name, h => .tagged tag (spells_of_nameText? name (by rwa [nameText?] at h))

theorem nameText?_eq_some_iff {name : Yaml} {text : String} :
    name.nameText? = some text ↔ name.Spells text := by
  constructor
  · exact spells_of_nameText? name
  · intro h
    induction h with
    | string text => rfl
    | number value => rfl
    | bool value => rfl
    | tagged tag _ ih => rw [nameText?, ih]

theorem nameText?_eq_none_iff {name : Yaml} :
    name.nameText? = none ↔ ∀ text, ¬ name.Spells text := by
  simp only [← nameText?_eq_some_iff, Option.eq_none_iff_forall_ne_some, Ne]

end Yaml

/-! ### Documents that agree -/

namespace Json

mutual

/-- A JSON document says the same as a YAML document. -/
inductive AgreesWith : Json → Yaml → Prop
  | null : AgreesWith .null .null
  | bool (value : Bool) : AgreesWith (.bool value) (.bool value)
  | integer (value : Int) : AgreesWith (.number (.integer value)) (.number (.integer value))
  | string (text : String) : AgreesWith (.string text) (.string text)
  | list {items : List Json} {items' : List Yaml} (h : List.Forall₂ AgreesWith items items') :
    AgreesWith (.array items) (.sequence items')
  | mapping {members : List (String × Json)} {entries : List (Yaml × Yaml)}
    (h : MembersAgreeWith members entries) : AgreesWith (.object members) (.mapping entries)
  /-- Tags are looked through. -/
  | tagged (tag : String) {j : Json} {y : Yaml} (h : AgreesWith j y) :
    AgreesWith j (.tagged tag y)

/-- The members of an object say the same as the entries of a mapping. -/
inductive MembersAgreeWith : List (String × Json) → List (Yaml × Yaml) → Prop
  | nil : MembersAgreeWith [] []
  | named {text : String} {j : Json} {name y : Yaml} {members : List (String × Json)}
    {entries : List (Yaml × Yaml)} (hname : name.Spells text) (hvalue : AgreesWith j y)
    (h : MembersAgreeWith members entries) :
    MembersAgreeWith ((text, j) :: members) ((name, y) :: entries)
  /-- An entry whose name has no text is passed over. -/
  | passed {name y : Yaml} {members : List (String × Json)} {entries : List (Yaml × Yaml)}
    (hname : ∀ text, ¬ name.Spells text) (h : MembersAgreeWith members entries) :
    MembersAgreeWith members ((name, y) :: entries)

end

/-- What agrees with a string is a string, under any tags. -/
theorem AgreesWith.stringText?_eq {j : Json} {y : Yaml} :
    j.AgreesWith y → j.stringText? = y.stringText?
  | .null => rfl
  | .bool _ => rfl
  | .integer _ => rfl
  | .string _ => rfl
  | .list _ => rfl
  | .mapping _ => rfl
  | .tagged _ h => by rw [h.stringText?_eq, Yaml.stringText?]

/-- Lists whose items agree are both lists of strings, with the same strings, or both are not. -/
theorem mapM_stringText?_eq {items : List Json} {items' : List Yaml}
    (h : List.Forall₂ AgreesWith items items') :
    items.mapM stringText? = items'.mapM Yaml.stringText? := by
  induction h with
  | nil => rfl
  | cons h _ ih => rw [List.mapM_cons, List.mapM_cons, h.stringText?_eq, ih]

mutual

/-- Documents that agree have the same tree. -/
theorem AgreesWith.tree_eq {j : Json} {y : Yaml} (h : j.AgreesWith y) : j.tree = y.tree :=
  match h with
  | .null => rfl
  | .bool _ => rfl
  | .integer _ => rfl
  | .string _ => rfl
  | .list h => by rw [tree, Yaml.tree, mapM_stringText?_eq h]
  | .mapping h => by rw [tree, Yaml.tree, h.trees_eq]
  | .tagged _ h => by rw [h.tree_eq, Yaml.tree]
termination_by structural h

theorem MembersAgreeWith.trees_eq {members : List (String × Json)} {entries : List (Yaml × Yaml)}
    (h : MembersAgreeWith members entries) : memberTrees members = Yaml.entryTrees entries :=
  match h with
  | .nil => rfl
  | .named hname hvalue h => by
    rw [memberTrees, Yaml.entryTrees, Yaml.nameText?_eq_some_iff.mpr hname, hvalue.tree_eq,
      h.trees_eq]
  | .passed hname h => by rw [h.trees_eq, Yaml.entryTrees, Yaml.nameText?_eq_none_iff.mpr hname]
termination_by structural h

end

end Json

/-! ### Nodes of documents that agree -/

namespace DocumentNode

/-- A node of a JSON document agrees with one of a YAML document if their values do. -/
def AgreesWith : DocumentNode → DocumentNode → Prop
  | json value, yaml value' => value.AgreesWith value'
  | _, _ => False

/-- The node that names lead to, from child to child. -/
def follow? (n : DocumentNode) : List String → Option DocumentNode
  | [] => some n
  | name :: names => (n.child? name).bind fun child => child.follow? names

variable {n n' : DocumentNode}

theorem AgreesWith.exists_eq (h : n.AgreesWith n') :
    ∃ (j : Json) (y : Yaml), n = json j ∧ n' = yaml y ∧ j.AgreesWith y := by
  match n, n', h with
  | json j, yaml y, h => exact ⟨j, y, rfl, rfl, h⟩

theorem AgreesWith.tree_eq (h : n.AgreesWith n') : n.tree = n'.tree := by
  obtain ⟨j, y, rfl, rfl, h⟩ := h.exists_eq
  exact h.tree_eq

/-- Names lead to the same node in the tree as in the document. -/
theorem follow?_tree (n : DocumentNode) (names : List String) :
    n.tree.follow? names = (n.follow? names).map tree := by
  induction names generalizing n with
  | nil => rfl
  | cons name names ih =>
    rw [Tree.follow?, follow?, child?_tree, Option.bind_map, Option.map_bind]
    exact Option.bind_congr fun child _ => ih child

/-- Two children have the same name and agree. -/
def ChildrenAgree (c c' : String × DocumentNode) : Prop := c.1 = c'.1 ∧ c.2.AgreesWith c'.2

/-- Of lists of children that agree, the first ones of a name do. -/
theorem rel_find? {children children' : List (String × DocumentNode)}
    (h : List.Forall₂ ChildrenAgree children children') (name : String) :
    Option.Rel AgreesWith ((children.find? fun c => c.1 == name).map Prod.snd)
      ((children'.find? fun c => c.1 == name).map Prod.snd) := by
  induction h with
  | nil => exact .none
  | @cons c c' _ _ hc _ ih =>
    rw [List.find?_cons, List.find?_cons, ← hc.1]
    cases c.1 == name with
    | true => exact .some hc.2
    | false => exact ih

end DocumentNode

namespace Json

mutual

/-- All children of documents that agree do so too. -/
theorem AgreesWith.forall₂_children {j : Json} {y : Yaml} (h : j.AgreesWith y) :
    List.Forall₂ DocumentNode.ChildrenAgree ((DocumentNode.json j).childrenWith .any)
      ((DocumentNode.yaml y).childrenWith .any) :=
  match h with
  | .null | .bool _ | .integer _ | .string _ | .list _ => .nil
  | .mapping h => by
    simpa [DocumentNode.childrenWith, membersWith, Yaml.entriesWith, Yaml.untagged,
      NamePattern.admits] using h.forall₂
  | .tagged _ h => h.forall₂_children
termination_by structural h

/-- Members that agree with entries are those under the names that have a text. -/
theorem MembersAgreeWith.forall₂ {members : List (String × Json)} {entries : List (Yaml × Yaml)}
    (h : MembersAgreeWith members entries) :
    List.Forall₂ DocumentNode.ChildrenAgree (members.map (Prod.map id .json))
      ((entries.filterMap Yaml.named?).map (Prod.map id .yaml)) :=
  match h with
  | .nil => .nil
  | .named hname hvalue h => by
    rw [List.filterMap_cons, Yaml.named?, Yaml.nameText?_eq_some_iff.mpr hname]
    exact .cons ⟨rfl, hvalue⟩ h.forall₂
  | .passed hname h => by
    rw [List.filterMap_cons, Yaml.named?, Yaml.nameText?_eq_none_iff.mpr hname]
    exact h.forall₂
termination_by structural h

end

namespace AgreesWith

variable {j : Json} {y : Yaml}

theorem forall₂_childrenWith (h : j.AgreesWith y) (pattern : NamePattern) :
    List.Forall₂ DocumentNode.ChildrenAgree ((DocumentNode.json j).childrenWith pattern)
      ((DocumentNode.yaml y).childrenWith pattern) := by
  rw [DocumentNode.childrenWith_eq_filter, DocumentNode.childrenWith_eq_filter pattern (.yaml y)]
  refine List.rel_filter (fun c c' hc => ?_) h.forall₂_children
  change pattern.admits c.1 = true ↔ pattern.admits c'.1 = true
  rw [hc.1]

theorem rel_child? (h : j.AgreesWith y) (name : String) :
    Option.Rel DocumentNode.AgreesWith ((DocumentNode.json j).child? name)
      ((DocumentNode.yaml y).child? name) := by
  rw [DocumentNode.child?_eq_find?, DocumentNode.child?_eq_find? name (.yaml y)]
  exact DocumentNode.rel_find? h.forall₂_children name

/-- Names lead to nodes that agree, or to nothing in both documents. -/
theorem rel_follow? (h : j.AgreesWith y) (names : List String) :
    Option.Rel DocumentNode.AgreesWith ((DocumentNode.json j).follow? names)
      ((DocumentNode.yaml y).follow? names) := by
  induction names generalizing j y with
  | nil => exact .some h
  | cons name names ih =>
    rw [DocumentNode.follow?, DocumentNode.follow?]
    have hrel := h.rel_child? name
    generalize (DocumentNode.json j).child? name = child?,
      (DocumentNode.yaml y).child? name = child'? at hrel
    cases hrel with
    | none => exact .none
    | some hchild =>
      obtain ⟨j', y', rfl, rfl, hchild⟩ := hchild.exists_eq
      exact ih hchild

end AgreesWith

end Json

/-- The node of a key is one that names lead to; the last of them is a plural form if the key takes
one. -/
theorem Tree.exists_follow?_resolve (rules : PluralRules) (t : Tree) (key : List String) :
    ∃ names, t.follow? names = some (t.resolve rules key).node := by
  have hends := ends_resolve rules t key
  generalize t.resolve rules key = r at hends ⊢
  cases hends with
  | whole names node hfollow => exact ⟨_, hfollow⟩
  | stuck names name rest node hfollow => exact ⟨names, hfollow⟩
  | plural names name node child hfollow _ hplural =>
    obtain ⟨-, _, variant, _, -, hform, -⟩ := pluralChild?_eq_some_iff.mp hplural
    refine ⟨names ++ [name ++ rules.separator ++ variant], ?_⟩
    rw [follow?_append, hfollow, Option.bind_some, follow?, hform]
    rfl

/-! ### The same answers -/

namespace Json

variable {j : Json} {y : Yaml}

/-- **Both formats.** Documents that agree have the same tree: they are both branches or both
leaves, have the same names in the same order and show the same message. For every pattern, and for
every name, they have the same children, whose values agree again. Every key has the same resolved
path and the same unresolved segments in both, by a plural form in both or in neither, and its nodes
are those to which the same names lead in both, whose values agree. What can follow a key is the
same. -/
theorem AgreesWith.same_answers (h : j.AgreesWith y) :
    let n := DocumentNode.json j
    let n' := DocumentNode.yaml y
    j.tree = y.tree ∧
    j.tree.isBranch = y.tree.isBranch ∧
    j.tree.childNames = y.tree.childNames ∧
    j.tree.value? = y.tree.value? ∧
    (∀ pattern, List.Forall₂ (fun c c' => c.1 = c'.1 ∧ c.2.AgreesWith c'.2)
      (n.childrenWith pattern) (n'.childrenWith pattern)) ∧
    (∀ name, Option.Rel DocumentNode.AgreesWith (n.child? name) (n'.child? name)) ∧
    (∀ rules key,
      let r := j.tree.resolve rules key
      let r' := y.tree.resolve rules key
      r.path = r'.path ∧ r.unresolved = r'.unresolved ∧ r.isPlural = r'.isPlural ∧
        ∃ names m m', n.follow? names = some m ∧ n'.follow? names = some m' ∧
          m.AgreesWith m' ∧ m.tree = r.node ∧ m'.tree = r'.node) ∧
    ∀ rules key isPartial,
      j.tree.variants rules key isPartial = y.tree.variants rules key isPartial := by
  intro n n'
  rw [← h.tree_eq]
  refine ⟨rfl, rfl, rfl, rfl, h.forall₂_childrenWith, h.rel_child?, fun rules key => ?_,
    fun _ _ _ => rfl⟩
  intro r r'
  obtain ⟨names, hfollow⟩ := Tree.exists_follow?_resolve rules j.tree key
  obtain ⟨m, hm, hnode⟩ := Option.map_eq_some_iff.mp ((n.follow?_tree names).symm.trans hfollow)
  have hrel : Option.Rel DocumentNode.AgreesWith (n.follow? names) (n'.follow? names) :=
    h.rel_follow? names
  rw [hm] at hrel
  generalize hm' : n'.follow? names = found at hrel
  cases hrel with
  | some hagrees =>
    exact ⟨rfl, rfl, rfl, names, m, _, hm, hm', hagrees, hnode, hagrees.tree_eq.symm.trans hnode⟩

/-- Tags on a document, on a name and on an item of a list are looked through; a number and a truth
value are names, and the entry under no name is passed over. -/
theorem AgreesWith.same_answers_tagged :
    let j : Json :=
      .object [("1", .object [("list", .array [.string "a", .string "b"])]), ("true", .null)]
    let y : Yaml := .tagged "!doc" (.mapping
      [(.tagged "!name" (.number (.integer 1)),
          .mapping [(.string "list", .sequence [.tagged "!item" (.string "a"), .string "b"])]),
        (.null, .string "passed over"), (.bool true, .null)])
    j.AgreesWith y ∧ y.tree.childNames = ["1", "true"] ∧
      (y.tree.resolve .default ["1", "list", "a"]).path = ["1", "list"] ∧
      y.tree.variants .default ["1", "l"] true = ["ist"] := by
  intro j y
  have hlist : List.Forall₂ AgreesWith [.string "a", .string "b"]
      [.tagged "!item" (.string "a"), .string "b"] :=
    .cons (.tagged _ (.string _)) (.cons (.string _) .nil)
  have hone : (Yaml.tagged "!name" (.number (.integer 1))).Spells "1" := .tagged _ (.number _)
  have hpassed : ∀ text, ¬ Yaml.null.Spells text := Yaml.nameText?_eq_none_iff.mp rfl
  have hagrees : j.AgreesWith y :=
    .tagged _ (.mapping (.named hone (.mapping (.named (.string _) (.list hlist) .nil))
      (.passed hpassed (.named (.bool true) .null .nil))))
  obtain ⟨-, -, hnames, -, -, -, hresolve, hvariants⟩ := hagrees.same_answers
  refine ⟨hagrees, ?_, ?_, ?_⟩
  · rw [← hnames]
    rfl
  · rw [← (hresolve .default ["1", "list", "a"]).1]
    rfl
  · rw [← hvariants]
    decide +kernel

end Json

end MessageKeys
