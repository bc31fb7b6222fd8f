import MessageKeys.Yaml.Token.Stream

/-!
# Events of a YAML text

The tokens of a document are grouped into nodes: scalars, aliases, and sequences and mappings,
which show as an event where they start and one where they end. In a mapping keys and values
alternate; a missing one is an empty plain scalar.

## Main definitions

* `MessageKeys.Yaml.Event` — events, with the anchor and the tag of their node.
* `MessageKeys.Yaml.readNode` — the events of one node.
* `MessageKeys.Yaml.events` — the events of the document in a text.
-/

namespace MessageKeys.Yaml

/-- The anchor and the tag of a node. -/
structure Properties where
  anchor? : Option String
  tag? : Option String
  deriving DecidableEq, Repr, Inhabited

/-- Neither anchor nor tag. -/
def Properties.none : Properties := ⟨Option.none, Option.none⟩

/-- Where something begins or ends in a document. -/
inductive Event where
  | alias (name : String)
  | scalar (properties : Properties) (text : String) (style : ScalarStyle)
  | sequenceStart (properties : Properties)
  | sequenceEnd
  | mappingStart (properties : Properties)
  | mappingEnd
  deriving DecidableEq, Repr, Inhabited

/-- The event of a missing node. -/
def Event.missing : Event := .scalar .none "" .plain

/-- What tag handles stand for. -/
abbrev TagHandles := List (String × String)

/-- The handles that need no directive. -/
def TagHandles.default : TagHandles := [("!", "!"), ("!!", "tag:yaml.org,2002:")]

/-! ### Properties -/

/-- The full text of a tag. -/
def resolveTag (handles : TagHandles) (handle suffix : String) : Except Fault String :=
  if handle.isEmpty then .ok suffix
  else
    match handles.lookup handle with
    | some start => .ok (start ++ suffix)
    | none => .error .undefinedTagHandle

/-- Reads an anchor and a tag, in any order. -/
def readProperties (handles : TagHandles) :
    List Token → Except Fault (Properties × List Token)
  | .anchor name :: .tag handle suffix :: ts => do
    return (⟨name, ← resolveTag handles handle suffix⟩, ts)
  | .tag handle suffix :: .anchor name :: ts => do
    return (⟨name, ← resolveTag handles handle suffix⟩, ts)
  | .anchor name :: ts => .ok (⟨name, none⟩, ts)
  | .tag handle suffix :: ts => do return (⟨none, ← resolveTag handles handle suffix⟩, ts)
  | ts => .ok (.none, ts)

/-- The properties of a scalar: a lone exclamation mark says nothing about it. -/
def Properties.ofScalar (p : Properties) : Properties :=
  if p.tag? = some "!" then { p with tag? := Option.none } else p

/-! ### Nodes -/

/-- The tokens that close an entry of a block collection without a node. -/
def closesBlockEntry : Token → Bool
  | .blockEntry | .blockEnd => true
  | _ => false

/-- The tokens that close a key or a value of a block mapping without a node. -/
def closesBlockPart : Token → Bool
  | .key | .value | .blockEnd => true
  | _ => false

/-- Reads a node unless `closes` says of the first token that it is missing. -/
def nodeOrMissing (node : List Token → Except Fault (List Event × List Token))
    (closes : Token → Bool) (ts : List Token) : Except Fault (List Event × List Token) :=
  match ts with
  | t :: _ => if closes t then .ok ([.missing], ts) else node ts
  | [] => node ts

mutual

/-- Reads a node. Block collections may stand where `block` holds, and sequences without an
indentation of their own where `indentless` holds too. -/
def readNode (handles : TagHandles) :
    (fuel : Nat) → (block indentless : Bool) → List Token → Except Fault (List Event × List Token)
  | 0, _, _, _ => .error .nodeExpected
  | _ + 1, _, _, .alias name :: ts => .ok ([.alias name], ts)
  | fuel + 1, block, indentless, ts => do
    let (p, rest) ← readProperties handles ts
    match rest, block, indentless with
    | .blockEntry :: _, _, true =>
      let (events, ts) ← readIndentlessEntries handles fuel rest
      return (.sequenceStart p :: events, ts)
    | .scalar text style :: ts, _, _ => return ([.scalar p.ofScalar text style], ts)
    | .flowSequenceStart :: ts, _, _ =>
      let (events, ts) ← readFlowItems handles fuel true ts
      return (.sequenceStart p :: events, ts)
    | .flowMappingStart :: ts, _, _ =>
      let (events, ts) ← readFlowEntries handles fuel true ts
      return (.mappingStart p :: events, ts)
    | .blockSequenceStart :: ts, true, _ =>
      let (events, ts) ← readBlockEntries handles fuel ts
      return (.sequenceStart p :: events, ts)
    | .blockMappingStart :: ts, true, _ =>
      let (events, ts) ← readBlockPairs handles fuel ts
      return (.mappingStart p :: events, ts)
    | _, _, _ =>
      if p = .none then throw .nodeExpected else return ([.scalar p "" .plain], rest)

/-- Reads the entries of a block sequence up to its end. -/
def readBlockEntries (handles : TagHandles) :
    (fuel : Nat) → List Token → Except Fault (List Event × List Token)
  | 0, _ => .error .entryExpected
  | fuel + 1, .blockEntry :: ts => do
    let (entry, ts) ← nodeOrMissing (readNode handles fuel true false) closesBlockEntry ts
    let (events, ts) ← readBlockEntries handles fuel ts
    return (entry ++ events, ts)
  | _ + 1, .blockEnd :: ts => .ok ([.sequenceEnd], ts)
  | _ + 1, _ => .error .entryExpected

/-- Reads the entries of a sequence that has no indentation of its own; it ends before the first
other token. -/
def readIndentlessEntries (handles : TagHandles) :
    (fuel : Nat) → List Token → Except Fault (List Event × List Token)
  | 0, _ => .error .entryExpected
  | fuel + 1, .blockEntry :: ts => do
    let (entry, ts) ← nodeOrMissing (readNode handles fuel true false)
      (fun t => closesBlockEntry t || closesBlockPart t) ts
    let (events, ts) ← readIndentlessEntries handles fuel ts
    return (entry ++ events, ts)
  | _ + 1, ts => .ok ([.sequenceEnd], ts)

/-- Reads the keys and values of a block mapping up to its end. -/
def readBlockPairs (handles : TagHandles) :
    (fuel : Nat) → List Token → Except Fault (List Event × List Token)
  | 0, _ => .error .keyExpected
  | fuel + 1, .key :: ts => do
    let (key, ts) ← nodeOrMissing (readNode handles fuel true true) closesBlockPart ts
    let (value, ts) ←
      match ts with
      | .value :: ts => nodeOrMissing (readNode handles fuel true true) closesBlockPart ts
      | ts => pure ([.missing], ts)
    let (events, ts) ← readBlockPairs handles fuel ts
    return (key ++ value ++ events, ts)
  | _ + 1, .blockEnd :: ts => .ok ([.mappingEnd], ts)
  | _ + 1, _ => .error .keyExpected

/-- Reads the items of a flow sequence up to its end; after the first, a comma is before each. An
item that is a key or has a colon is a mapping of one pair. -/
def readFlowItems (handles : TagHandles) :
    (fuel : Nat) → (first : Bool) → List Token → Except Fault (List Event × List Token)
  | 0, _, _ => .error .commaExpected
  | _ + 1, _, .flowSequenceEnd :: ts => .ok ([.sequenceEnd], ts)
  | fuel + 1, first, ts => do
    let ts ←
      match first, ts with
      | true, ts => pure ts
      | false, .flowEntry :: ts => pure ts
      | false, _ => throw .commaExpected
    match ts with
    | .flowSequenceEnd :: ts => return ([.sequenceEnd], ts)
    | .key :: ts =>
      let (pair, ts) ← readFlowPair handles fuel ts
      let (events, ts) ← readFlowItems handles fuel false ts
      return (.mappingStart .none :: pair ++ .mappingEnd :: events, ts)
    | ts =>
      let (item, ts) ← readNode handles fuel false false ts
      let (events, ts) ← readFlowItems handles fuel false ts
      return (item ++ events, ts)

/-- Reads the key and the value of an item of a flow sequence behind its key token. Where the key
is missing, the token behind it is passed over. -/
def readFlowPair (handles : TagHandles) :
    (fuel : Nat) → List Token → Except Fault (List Event × List Token)
  | 0, _ => .error .nodeExpected
  | fuel + 1, ts => do
    let (key, ts) ←
      match ts with
      | .value :: ts | .flowEntry :: ts | .flowSequenceEnd :: ts => pure ([.missing], ts)
      | ts => readNode handles fuel false false ts
    let (value, ts) ←
      match ts with
      | .value :: .flowEntry :: ts => pure ([.missing], .flowEntry :: ts)
      | .value :: .flowSequenceEnd :: ts => pure ([.missing], .flowSequenceEnd :: ts)
      | .value :: ts => readNode handles fuel false false ts
      | ts => pure ([.missing], ts)
    return (key ++ value, ts)

/-- Reads the keys and values of a flow mapping up to its end; after the first pair, a comma is
before each. -/
def readFlowEntries (handles : TagHandles) :
    (fuel : Nat) → (first : Bool) → List Token → Except Fault (List Event × List Token)
  | 0, _, _ => .error .commaExpected
  | _ + 1, _, .flowMappingEnd :: ts => .ok ([.mappingEnd], ts)
  | fuel + 1, first, ts => do
    let ts ←
      match first, ts with
      | true, ts => pure ts
      | false, .flowEntry :: ts => pure ts
      | false, _ => throw .commaExpected
    match ts with
    | .flowMappingEnd :: ts => return ([.mappingEnd], ts)
    | .key :: ts =>
      let (key, ts) ← nodeOrMissing (readNode handles fuel false false) closesFlowKey ts
      let (value, ts) ←
        match ts with
        | .value :: ts => nodeOrMissing (readNode handles fuel false false) closesFlowValue ts
        | ts => pure ([.missing], ts)
      let (events, ts) ← readFlowEntries handles fuel false ts
      return (key ++ value ++ events, ts)
    | ts =>
      let (key, ts) ← readNode handles fuel false false ts
      let (events, ts) ← readFlowEntries handles fuel false ts
      return (key ++ .missing :: events, ts)
where
  /-- The tokens that close a key of a flow mapping without a node. -/
  closesFlowKey : Token → Bool
    | .value | .flowEntry | .flowMappingEnd => true
    | _ => false
  /-- The tokens that close a value of a flow mapping without a node. -/
  closesFlowValue : Token → Bool
    | .flowEntry | .flowMappingEnd => true
    | _ => false

end

/-! ### Documents -/

/-- Reads the directives of a document: the handles they define, and whether there is a version. -/
def readDirectives : (versioned : Bool) → (handles : TagHandles) → List Token →
    Except Fault (TagHandles × List Token)
  | versioned, handles, .versionDirective major minor :: ts =>
    if versioned then .error .repeatedDirective
    else if major = 1 ∧ (minor = 1 ∨ minor = 2) then readDirectives true handles ts
    else .error .version
  | versioned, handles, .tagDirective handle start :: ts =>
    if (handles.lookup handle).isSome then .error .repeatedDirective
    else readDirectives versioned ((handle, start) :: handles) ts
  | _, handles, ts => .ok (handles, ts)

/-- Whether a token stands outside of the content of a document. -/
def isOutside : Token → Bool
  | .versionDirective _ _ | .tagDirective _ _ | .documentStart | .documentEnd | .streamEnd => true
  | _ => false

/-- Whether a token is the start of a document with directives or a marker. -/
def startsExplicitly : Token → Bool
  | .versionDirective _ _ | .tagDirective _ _ | .documentStart => true
  | _ => false

/-- Reads the first document of a stream; no events if there is none. -/
def readFirstDocument (fuel : Nat) (ts : List Token) :
    Except Fault (List Event × List Token) := do
  match ts with
  | .streamEnd :: _ => return ([], ts)
  | t :: _ =>
    if startsExplicitly t then
      let (handles, ts) ← readDirectives false [] ts
      match ts with
      | .documentStart :: ts =>
        nodeOrMissing (readNode (handles ++ TagHandles.default) fuel true false) isOutside ts
      | _ => throw .documentStartExpected
    else readNode TagHandles.default fuel true false ts
  | [] => throw .nodeExpected

/-- Checks that a document is followed by end markers only. -/
def checkStreamEnd : List Token → Except Fault Unit
  | .documentEnd :: ts => checkStreamEnd ts
  | [.streamEnd] => .ok ()
  | _ => .error .severalDocuments

/-- The events of the only document in a text; none if there is no document. -/
def events (text : String) : Except Fault (List Event) := do
  let ts ← tokens text
  let (events, rest) ← readFirstDocument (4 * ts.length + 4) ts
  checkStreamEnd rest
  return events

end MessageKeys.Yaml
