import MessageKeys.Yaml.Scalar

/-!
# YAML documents

The value of a document, put together from its events. An alias stands for the node with its
anchor. Anchors are numbered by the names known before them, so an anchor that is defined again
shares the number of the next new name, and an alias stands for the last node with its number. The
nodes that aliases stand for are read again at every alias, a hundred times for each event at most.

## Main definitions

* `MessageKeys.Yaml.Anchors` — the anchors of a document.
* `MessageKeys.Yaml.Reader` — a document with its anchors numbered.
* `MessageKeys.Yaml.readValue` — the value of the node where some events start.
* `MessageKeys.Yaml.read` — the value of the document in a text.
-/

namespace MessageKeys.Yaml

/-! ### Anchors -/

/-- An event whose alias, if it is one, is given by the number of its anchor. -/
inductive Step where
  | alias (anchor : Nat)
  | other (event : Event)
  deriving Repr, Inhabited

/-- The anchors of a document. -/
structure Anchors where
  /-- The number of each name, the latest definition first. -/
  numbers : List (String × Nat)
  /-- How many different names there are. -/
  names : Nat
  /-- The index of the first event of the node with each number, the latest definition first. -/
  nodes : List (Nat × Nat)

namespace Anchors

/-- No anchors. -/
def empty : Anchors := ⟨[], 0, []⟩

/-- The anchors with one more, at the event with this index. -/
def define (a : Anchors) (name : String) (index : Nat) : Anchors :=
  { numbers := (name, a.names) :: a.numbers
    names := if (a.numbers.lookup name).isSome then a.names else a.names + 1
    nodes := (a.names, index) :: a.nodes }

/-- The anchors after the definition in some properties, if there is one. -/
def defineIn (a : Anchors) (p : Properties) (index : Nat) : Anchors :=
  match p.anchor? with
  | some name => a.define name index
  | none => a

end Anchors

/-- Numbers the anchors of a document, of which the first event has this index. -/
def numberAnchors : (index : Nat) → Anchors → List Event → Except Fault (List Step × Anchors)
  | _, a, [] => .ok ([], a)
  | index, a, event :: events => do
    let (step, a) ←
      match event with
      | .alias name =>
        match a.numbers.lookup name with
        | some n => pure (Step.alias n, a)
        | none => throw .unknownAnchor
      | .scalar p _ _ => pure (.other event, a.defineIn p index)
      | .sequenceStart p => pure (.other event, a.defineIn p index)
      | .mappingStart p => pure (.other event, a.defineIn p index)
      | _ => pure (.other event, a)
    let (steps, a) ← numberAnchors (index + 1) a events
    return (step :: steps, a)

/-! ### Values -/

/-- A document that is being read. -/
structure Reader where
  steps : Array Step
  /-- The index of the first event of the node with each anchor number. -/
  nodes : List (Nat × Nat)

/-- A value, the index behind its node, and the number of aliases followed so far. -/
structure Read (α : Type) where
  value : α
  next : Nat
  aliases : Nat

/-- The tag that a node puts on its value: one that starts with an exclamation mark, which does not
count unless it is alone. -/
def localTag? (p : Properties) : Option String :=
  match p.tag?.map String.toList with
  | some ['!'] => some "!"
  | some ('!' :: rest) => some (String.ofList rest)
  | _ => none

/-- The value with the tag of its node, if the node puts one on it. -/
def withTag (tag? : Option String) (value : Yaml) : Yaml :=
  match tag? with
  | some tag => .tagged tag value
  | none => value

/-- The aliases that may be followed in a document. -/
def Reader.aliasBound (r : Reader) : Nat := r.steps.size * 100

mutual

/-- The value of the node at `index`, in which fewer than `depth` collections are nested. Where
`bare` holds the tag of the node does not count, because it is a key of a tagged mapping. -/
def readValue (r : Reader) :
    (fuel depth : Nat) → (bare : Bool) → (index aliases : Nat) → Except Fault (Read Yaml)
  | 0, _, _, _, _ => .error .tooDeep
  | fuel + 1, depth, bare, index, aliases =>
    match r.steps[index]? with
    | some (.alias anchor) =>
      if r.aliasBound < aliases + 1 then .error .tooManyAliases
      else
        match r.nodes.lookup anchor with
        | some target => do
          let read ← readValue r fuel depth false target (aliases + 1)
          return ⟨read.value, index + 1, read.aliases⟩
        | none => .error .unknownAnchor
    | some (.other (.scalar p text style)) => do
      let tag? := if bare then none else localTag? p
      let typeTag? := if bare || tag?.isSome then none else p.tag?
      let value ← scalarValue typeTag? text style
      return ⟨withTag tag? value, index + 1, aliases⟩
    | some (.other (.sequenceStart p)) =>
      if depth = 0 then .error .tooDeep
      else do
        let tag? := if bare then none else localTag? p
        let read ← readItems r fuel (depth - 1) (index + 1) aliases
        return ⟨withTag tag? (.sequence read.value), read.next, read.aliases⟩
    | some (.other (.mappingStart p)) =>
      if depth = 0 then .error .tooDeep
      else do
        let tag? := if bare then none else localTag? p
        let read ← readEntries r fuel (depth - 1) (bare || tag?.isSome) [] (index + 1) aliases
        return ⟨withTag tag? (.mapping read.value), read.next, read.aliases⟩
    | _ => .error .nodeExpected

/-- The items of a sequence from `index` on. -/
def readItems (r : Reader) :
    (fuel depth index aliases : Nat) → Except Fault (Read (List Yaml))
  | 0, _, _, _ => .error .tooDeep
  | fuel + 1, depth, index, aliases =>
    match r.steps[index]? with
    | some (.other .sequenceEnd) => .ok ⟨[], index + 1, aliases⟩
    | _ => do
      let item ← readValue r fuel depth false index aliases
      let items ← readItems r fuel depth item.next item.aliases
      return ⟨item.value :: items.value, items.next, items.aliases⟩

/-- The entries of a mapping from `index` on, after those in `done`, the last one first. -/
def readEntries (r : Reader) :
    (fuel depth : Nat) → (bareKeys : Bool) → (done : List (Yaml × Yaml)) →
      (index aliases : Nat) → Except Fault (Read (List (Yaml × Yaml)))
  | 0, _, _, _, _, _ => .error .tooDeep
  | fuel + 1, depth, bareKeys, done, index, aliases =>
    match r.steps[index]? with
    | some (.other .mappingEnd) => .ok ⟨done.reverse, index + 1, aliases⟩
    | _ => do
      let key ← readValue r fuel depth bareKeys index aliases
      if done.any fun entry => isSame entry.1 key.value then throw .repeatedKey
      let value ← readValue r fuel depth false key.next key.aliases
      readEntries r fuel depth bareKeys ((key.value, value.value) :: done) value.next value.aliases

end

/-- The number of collections that may be nested. -/
def depthBound : Nat := 128

/-- The value of the document in a text; nothing if there is no document. -/
def read (text : String) : Except Fault Yaml := do
  let events ← events text
  if events.isEmpty then return .null
  let (steps, anchors) ← numberAnchors 0 .empty events
  let reader : Reader := ⟨steps.toArray, anchors.nodes⟩
  let fuel := (depthBound + 2) * (2 * events.length + 4)
  return (← readValue reader fuel depthBound false 0 0).value

end MessageKeys.Yaml
