/-
**The graph of a YAML document.**

A document is a graph of scalars, sequences and mappings, each with its type. A collection names its
parts by their numbers in the graph, so that one node may be part of several collections, and of itself.

`document?` reads the one document of some tokens. Blocks end with an end token; a sequence that is a
value may stand without a block of its own. Between brackets, commas separate items, and a single pair
among the items of a sequence is a mapping of its own. An anchor names a node once, and a collection
has its name before its parts are read; a reference stands for the node of that name. What is wrong
with the text behind the last token is a fault only when the token behind it is asked for.

The fuel of the readers that call each other bounds their depth of recursion; between two calls that
consume no token there is at most one more, so three units for each token are enough. Apart from that,
the room that is left says how much deeper collections may be nested.
-/

import AlarmFeed.Text.Fields
import AlarmFeed.Yaml.Scalar
import AlarmFeed.Yaml.Token.Lexer

namespace AlarmFeed.Yaml

/-- The number of a node in its graph. -/
abbrev NodeId := Nat

/-- What a node holds. -/
inductive Content
  | scalar (content : Text)
  | sequence (items : List NodeId)
  | mapping (pairs : List (NodeId × NodeId))

/-- A node of a document. -/
structure Node where
  tag : Tag
  content : Content

/-- The nodes of a document. -/
abbrev Graph := Array Node

/-- The graph with something else in a node. -/
def Graph.setContent (graph : Graph) (node : NodeId) (content : Content) : Graph :=
  graph.modify node fun old => { old with content := content }

/-- The graph with another type of a node. -/
def Graph.setTag (graph : Graph) (node : NodeId) (tag : Tag) : Graph :=
  graph.modify node fun old => { old with tag := tag }

/-! ### From tokens to a graph -/

/-- What is known in the middle of a document. -/
structure Draft where
  tokens : List Token
  /-- What is wrong behind the last token. -/
  fault : Fault
  /-- The nodes so far; the parts of a collection that is not finished are left out. -/
  graph : Graph := #[]
  /-- The nodes with a name. -/
  anchors : Fields NodeId := []
  /-- The meaning of the handles of tags. -/
  handles : Fields Text := []

/-- A reader of nodes. -/
abbrev Build := StateT Draft (Except Fault)

namespace Build

/-- The document is malformed. -/
def fail {α : Type} : Build α :=
  throw .document

/-- The next token. -/
def peek : Build Token := do
  let draft ← get
  match draft.tokens with
  | token :: _ => return token
  | [] => throw draft.fault

/-- Whether the next token is one of some. -/
def sees (some : List Token) : Build Bool := do
  return some.contains (← peek)

/-- Moves behind the next token. -/
def skip : Build Unit :=
  modify fun draft => { draft with tokens := draft.tokens.tail }

/-- Moves behind a given token, if it is next. -/
def skips (token : Token) : Build Bool := do
  if ← sees [token] then
    skip
    return true
  else return false

/-- An anchor, if one is next. -/
def anchor? : Build (Option Text) := do
  match ← peek with
  | .anchor name =>
    skip
    return some name
  | _ => return none

/-- A tag, if one is next. -/
def tag? : Build (Option TagName) := do
  match ← peek with
  | .tag name =>
    skip
    return some name
  | _ => return none

/-- An anchor and a tag in either order. -/
def properties : Build (Option Text × Option TagName) := do
  match ← anchor? with
  | some anchor => return (some anchor, ← tag?)
  | none =>
    let tag ← tag?
    let anchor ← if tag.isSome then anchor? else pure none
    return (anchor, tag)

/-- The full name of a tag. -/
def fullName (tag : TagName) : Build Text := do
  match tag.handle with
  | none => return tag.suffix
  | some handle =>
    match Fields.get? handle (← get).handles with
    | some start => return start ++ tag.suffix
    | none => fail

/-- The type that a tag says; none for a lone exclamation mark. -/
def typeOf (tag : Option TagName) : Build (Option Tag) := do
  match tag with
  | none => return none
  | some tag =>
    let name ← fullName tag
    return if name = "!" then none else some (.ofName name)

/-- The node that an anchor names. -/
def referred (anchor : Text) : Build NodeId := do
  match Fields.get? anchor (← get).anchors with
  | some node => return node
  | none => fail

/-- Fails if an anchor names a node already. -/
def requireNew (anchor : Option Text) : Build Unit := do
  match anchor with
  | none => return
  | some anchor => if (Fields.get? anchor (← get).anchors).isSome then fail

/-- Adds a node, under an anchor if there is one. -/
def add (anchor : Option Text) (tag : Tag) (content : Content) : Build NodeId := do
  let draft ← get
  let node := draft.graph.size
  let anchors := match anchor with
    | none => draft.anchors
    | some anchor => Fields.set anchor node draft.anchors
  set { draft with graph := draft.graph.push ⟨tag, content⟩, anchors := anchors }
  return node

/-- Adds a collection and then reads its parts. -/
def addCollection (anchor : Option Text) (tag : Tag) (empty : Content) (parts : Build Content) :
    Build NodeId := do
  let node ← add anchor tag empty
  let content ← parts
  modify fun draft => { draft with graph := draft.graph.setContent node content }
  return node

/-- Adds a scalar: one without a type of its own is what it looks like, unless it is quoted. -/
def addScalar (anchor : Option Text) (type : Option Tag) (plain : Bool) (content : Text) :
    Build NodeId :=
  add anchor (type.getD (if plain then .ofPlain content else .text)) (.scalar content)

/-- Adds the node that stands where nothing is written. -/
def addEmpty : Build NodeId :=
  addScalar none none true []

mutual

/-- A node; blocks may be excluded, and so may sequences without a block. -/
def node : Nat → Nat → Bool → Bool → Build NodeId
  | 0, _, _, _ => fail
  | _, 0, _, _ => throw .tooDeep
  | fuel + 1, room + 1, inBlock, indentless => do
    match ← peek with
    | .reference anchor =>
      skip
      referred anchor
    | _ =>
      let (anchor, tag) ← properties
      let type ← typeOf tag
      let next ← peek
      requireNew anchor
      let sequence (items : Build (List NodeId)) : Build NodeId :=
        addCollection anchor (type.getD .list) (.sequence []) do return .sequence (← items)
      let mapping (pairs : Build (List (NodeId × NodeId))) : Build NodeId :=
        addCollection anchor (type.getD .map) (.mapping []) do return .mapping (← pairs)
      let nothing : Build NodeId :=
        if anchor.isSome || tag.isSome then addScalar anchor type true [] else fail
      match next with
      | .blockEntry => if indentless then sequence (indentlessItems fuel room) else nothing
      | .scalar content plain =>
        skip
        addScalar anchor type (plain && tag.isNone || tag.isSome && type.isNone) content
      | .flowSequenceStart =>
        skip
        sequence (flowItems fuel room true)
      | .flowMappingStart =>
        skip
        mapping (flowPairs fuel room true)
      | .blockSequenceStart =>
        if inBlock then
          skip
          sequence (blockItems fuel room)
        else nothing
      | .blockMappingStart =>
        if inBlock then
          skip
          mapping (blockPairs fuel room)
        else nothing
      | _ => nothing

/-- A node in a block, unless one of some tokens is next. -/
def blockNode : Nat → Nat → Bool → List Token → Build NodeId
  | 0, _, _, _ => fail
  | fuel + 1, room, indentless, ends => do
    if ← sees ends then addEmpty else node fuel room true indentless

/-- A node between brackets, unless one of some tokens is next. -/
def flowNode : Nat → Nat → List Token → Build NodeId
  | 0, _, _ => fail
  | fuel + 1, room, ends => do
    if ← sees ends then addEmpty else node fuel room false false

/-- The items of a block. -/
def blockItems : Nat → Nat → Build (List NodeId)
  | 0, _ => fail
  | fuel + 1, room => do
    if ← skips .blockEntry then
      let item ← blockNode fuel room false [.blockEntry, .blockEnd]
      return item :: (← blockItems fuel room)
    else if ← skips .blockEnd then return []
    else fail

/-- The items of a sequence without a block of its own. -/
def indentlessItems : Nat → Nat → Build (List NodeId)
  | 0, _ => fail
  | fuel + 1, room => do
    if ← skips .blockEntry then
      let item ← blockNode fuel room false [.blockEntry, .key, .value, .blockEnd]
      return item :: (← indentlessItems fuel room)
    else return []

/-- The pairs of a block. -/
def blockPairs : Nat → Nat → Build (List (NodeId × NodeId))
  | 0, _ => fail
  | fuel + 1, room => do
    if ← skips .key then
      let key ← blockNode fuel room true [.key, .value, .blockEnd]
      let value ←
        if ← skips .value then blockNode fuel room true [.key, .value, .blockEnd] else addEmpty
      return (key, value) :: (← blockPairs fuel room)
    else if ← skips .blockEnd then return []
    else fail

/-- A pair between brackets, behind the mark of its key. -/
def flowPair : Nat → Nat → Token → Build (NodeId × NodeId)
  | 0, _, _ => fail
  | fuel + 1, room, ending => do
    let key ← flowNode fuel room [.value, .flowEntry, ending]
    let value ← if ← skips .value then flowNode fuel room [.flowEntry, ending] else addEmpty
    return (key, value)

/-- The items between brackets, the first of which has no comma in front. -/
def flowItems : Nat → Nat → Bool → Build (List NodeId)
  | 0, _, _ => fail
  | fuel + 1, room, first => do
    if ← skips .flowSequenceEnd then return []
    if !first then
      if !(← skips .flowEntry) then fail
    if ← sees [.key] then
      let item ← soleMapping fuel room
      return item :: (← flowItems fuel room false)
    else if ← skips .flowSequenceEnd then return []
    else
      let item ← node fuel room false false
      return item :: (← flowItems fuel room false)

/-- A mapping of one pair among the items between brackets. -/
def soleMapping : Nat → Nat → Build NodeId
  | 0, _ => fail
  | _, 0 => throw .tooDeep
  | fuel + 1, room + 1 =>
    addCollection none .map (.mapping []) do
      skip
      return .mapping [← flowPair fuel room .flowSequenceEnd]

/-- The pairs between braces, the first of which has no comma in front. -/
def flowPairs : Nat → Nat → Bool → Build (List (NodeId × NodeId))
  | 0, _, _ => fail
  | fuel + 1, room, first => do
    if ← skips .flowMappingEnd then return []
    if !first then
      if !(← skips .flowEntry) then fail
    if ← skips .key then
      let pair ← flowPair fuel room .flowMappingEnd
      return pair :: (← flowPairs fuel room false)
    else if ← skips .flowMappingEnd then return []
    else
      let key ← node fuel room false false
      let value ← addEmpty
      return (key, value) :: (← flowPairs fuel room false)

end

/-- Moves behind the ends of documents. -/
def skipEnds : Nat → Build Unit
  | 0 => return
  | fuel + 1 => do
    if ← skips .documentEnd then skipEnds fuel

/-- Reads directives: the version must be 1, and neither it nor a handle may be given twice. -/
def directives : Nat → Bool → Build Unit
  | 0, _ => return
  | fuel + 1, versioned => do
    match ← peek with
    | .directive (.version major _) =>
      if versioned || major != 1 then fail
      skip
      directives fuel true
    | .directive (.tag handle start) =>
      if (Fields.get? handle (← get).handles).isSome then fail
      skip
      modify fun draft => { draft with handles := Fields.set handle start draft.handles }
      directives fuel versioned
    | .directive .other =>
      skip
      directives fuel versioned
    | _ => return

/-- Gives a handle its usual meaning, unless a directive gave it another one. -/
def defaultHandle (handle start : Text) : Build Unit :=
  modify fun draft =>
    if (Fields.get? handle draft.handles).isSome then draft
    else { draft with handles := Fields.set handle start draft.handles }

/-- Gives the two usual handles their meaning. -/
def defaultHandles : Build Unit := do
  defaultHandle "!" "!"
  defaultHandle "!!" "tag:yaml.org,2002:"

/-- Whether a token starts a document that says so, or ends the text. -/
def isExplicit : Token → Bool
  | .directive _ => true
  | .documentStart => true
  | .streamEnd => true
  | _ => false

/-- Whether nothing is written between a start and this token. -/
def endsDocument : Token → Bool
  | .directive _ => true
  | .documentStart => true
  | .documentEnd => true
  | .streamEnd => true
  | _ => false

/-- How deeply collections may be nested. -/
def depthLimit : Nat := 480

/-- The document behind its start. -/
def explicitDocument (fuel : Nat) : Build (Option NodeId) := do
  if ← sees [.streamEnd] then return none
  directives fuel false
  defaultHandles
  if !(← skips .documentStart) then fail
  if endsDocument (← peek) then return some (← addEmpty)
  else return some (← node fuel depthLimit true false)

/-- The only document of a text, if there is one. Behind it, the start of another is read before that
is a fault. -/
def document? (fuel : Nat) : Build (Option NodeId) := do
  let found ←
    if isExplicit (← peek) then explicitDocument fuel
    else do
      defaultHandles
      pure (some (← node fuel depthLimit true false))
  skipEnds fuel
  if ← sees [.streamEnd] then return found
  modify fun draft => { draft with handles := [] }
  directives fuel false
  fail

end Build

/-- The graph of the only document that tokens say, and its root if they say one. -/
def Graph.ofTokens? (tokens : Tokens) : Except Fault (Graph × Option NodeId) := do
  let (root, draft) ← (Build.document? (3 * tokens.list.length + 8)).run
    { tokens := tokens.list, fault := tokens.fault }
  return (draft.graph, root)

end AlarmFeed.Yaml
