/-
**What a YAML document says.**

`Yaml.read` gives the value of the only document of a text. A collection may be a part of itself, so the
value is unfolded to a given depth, and null stands for what is deeper. A timestamp is null too, since
no setting takes either.

Every node of a graph is given its meaning once. That of a scalar is found at once; a collection is an
empty one of its kind at first, and its parts are looked at only when the collections met before it
have theirs. So of several faults the one nearest to the root is found, and a collection may be a part
of itself. Before its members are looked at, a mapping takes in the mappings that are merged into it,
in front of its own pairs.
-/

import AlarmFeed.Text.Base64
import AlarmFeed.Text.Fields
import AlarmFeed.Value
import AlarmFeed.Yaml.Graph

namespace AlarmFeed.Yaml

/-! ### What nodes mean -/

/-- What a node means; the parts of a collection are named by their nodes. -/
inductive Meaning
  | null
  | truth (holds : Bool)
  | integer (number : Int)
  | number (number : Binary64)
  | text (content : Text)
  | bytes (content : Bytes)
  | instant (instant : Instant)
  | list (items : List NodeId)
  | pairs (pairs : List (NodeId × NodeId))
  /-- The members of a mapping whose keys are texts, since nothing asks for the others. -/
  | object (members : Fields NodeId)

namespace Meaning

/-- Whether a meaning can be that of a key. -/
def isScalar : Meaning → Bool
  | list _ => false
  | pairs _ => false
  | object _ => false
  | _ => true

/-- The integer that a meaning counts as. -/
def integer? : Meaning → Option Int
  | truth holds => some holds.toNat
  | integer n => some n
  | number x => x.toInt?
  | _ => none

/-- Whether two keys are the same: numbers by their values, truth values among them, and everything else
only if it is of one kind. -/
def isSameKey (a b : Meaning) : Bool :=
  match integer? a, integer? b with
  | some m, some n => m == n
  | none, none =>
    match a, b with
    | null, null => true
    | number x, number y => x == y && x != .nan
    | text t, text u => t == u
    | bytes s, bytes t => s == t
    | instant s, instant t => s == t
    | _, _ => false
  | _, _ => false

end Meaning

/-- What is known in the middle of finding meanings. -/
structure Interpretation where
  graph : Graph
  meanings : Array (Option Meaning)
  /-- The collections met so far, in order. -/
  collections : Array NodeId := #[]

/-- A search for meanings. -/
abbrev Interpret := StateT Interpretation (Except Fault)

namespace Interpret

/-- The document says nothing that could be meant. -/
def fail {α : Type} : Interpret α :=
  throw .document

/-- A node; outside the graph there are only empty ones. -/
def node (place : NodeId) : Interpret Node := do
  return (← get).graph.getD place ⟨.null, .scalar []⟩

/-- The pairs of a node, if it is a mapping. -/
def pairsOf (place : NodeId) : Interpret (List (NodeId × NodeId)) := do
  match (← node place).content with
  | .mapping pairs => return pairs
  | _ => return []

/-- Puts other pairs into a node. -/
def setPairs (place : NodeId) (pairs : List (NodeId × NodeId)) : Interpret Unit :=
  modify fun state => { state with graph := state.graph.setContent place (.mapping pairs) }

/-- The meaning of a node, if it has one yet. -/
def meaning? (place : NodeId) : Interpret (Option Meaning) := do
  return ((← get).meanings[place]?).join

/-- Gives a node its meaning. -/
def settle (place : NodeId) (meaning : Meaning) : Interpret Unit :=
  modify fun state => { state with meanings := state.meanings.setIfInBounds place (some meaning) }

/-- Gives a collection the meaning of an empty one, and keeps its parts for later. -/
def postpone (place : NodeId) (meaning : Meaning) : Interpret Unit := do
  settle place meaning
  modify fun state => { state with collections := state.collections.push place }

/-! ### Scalars -/

/-- The text of a scalar. A mapping with a default value stands for that value, and one that is its own
default value for nothing that could ever be found. -/
def scalarText : Nat → NodeId → Interpret Text
  | 0, _ => throw .tooDeep
  | fuel + 1, place => do
    match (← node place).content with
    | .scalar content => return content
    | .sequence _ => fail
    | .mapping pairs =>
      match ← pairs.findM? fun (key, _) => return (← node key).tag == .default with
      | some (_, value) => scalarText fuel value
      | none => fail

/-- The bytes that a text says in base 64. -/
def bytesOf (t : Text) : Except Fault Bytes :=
  match if t.all fun c => c.val < 0x80 then Base64.decode? t else none with
  | some bytes => .ok bytes
  | none => .error .document

/-- The meaning of a scalar of some type. A default value is no timestamp. -/
def scalarMeaning (place : NodeId) (tag : Tag) : Interpret Meaning := do
  let content ← scalarText ((← get).graph.size + 1) place
  match tag with
  | .null => return .null
  | .truth => return .truth (← truth content)
  | .integer => return .integer (← integer content)
  | .number => return .number (← number content)
  | .text => return .text content
  | .binary => return .bytes (← bytesOf content)
  | .timestamp =>
    match (← node place).content with
    | .scalar _ => return .instant (← timestamp content)
    | _ => throw (.general .type "expected string or bytes-like object, got 'list'")
  | _ => fail

/-- Finds the meaning of a node, except for the parts of a collection. -/
def understand (place : NodeId) : Interpret Unit := do
  if (← meaning? place).isNone then
    match (← node place).tag with
    | .list => postpone place (.list [])
    | .set => postpone place (.list [])
    | .orderedMap => postpone place (.pairs [])
    | .pairs => postpone place (.pairs [])
    | .map => postpone place (.object [])
    | .merge => fail
    | .default => fail
    | .unknown => fail
    | tag => settle place (← scalarMeaning place tag)

/-! ### Merged mappings -/

mutual

/-- Takes the mappings that are merged into a mapping in front of its pairs, from a pair on; those of
the pairs before it are given. A key that marks a default value is a text from then on. -/
def flattenFrom : Nat → NodeId → Nat → List (NodeId × NodeId) → Interpret Unit
  | 0, _, _, _ => fail
  | fuel + 1, place, position, merged => do
    let pairs ← pairsOf place
    match pairs[position]? with
    | none => if !merged.isEmpty then setPairs place (merged ++ pairs)
    | some (key, value) =>
      match (← node key).tag with
      | .merge =>
        setPairs place (pairs.eraseIdx position)
        match (← node value).content with
        | .mapping _ =>
          flattenFrom fuel value 0 []
          flattenFrom fuel place position (merged ++ (← pairsOf value))
        | .sequence items =>
          let parts ← flattenEach fuel items
          flattenFrom fuel place position (merged ++ parts.reverse.flatten)
        | .scalar _ => fail
      | .default =>
        modify fun state => { state with graph := state.graph.setTag key .text }
        flattenFrom fuel place (position + 1) merged
      | _ => flattenFrom fuel place (position + 1) merged

/-- Does so for each of some mappings, and gives the pairs of each. -/
def flattenEach : Nat → List NodeId → Interpret (List (List (NodeId × NodeId)))
  | 0, _ => fail
  | _, [] => return []
  | fuel + 1, place :: places => do
    match (← node place).content with
    | .mapping _ =>
      flattenFrom fuel place 0 []
      let pairs ← pairsOf place
      return pairs :: (← flattenEach fuel places)
    | _ => fail

end

/-- How many parts the nodes of a graph have, and how many of them are merged mappings. -/
def sizes (graph : Graph) : Nat × Nat :=
  graph.foldl (fun (parts, merges) node =>
    match node.content with
    | .scalar _ => (parts + 1, merges)
    | .sequence items => (parts + items.length + 1, merges)
    | .mapping pairs =>
      let marks := pairs.filter fun (key, _) => (graph[key]?).any fun key => key.tag == .merge
      (parts + pairs.length + 1, merges + marks.length)) (0, 0)

/-- Takes the mappings that are merged into a mapping in front of its pairs. Each merge is done once and
makes the longest mapping longer by at most a factor of the parts of the graph, which bounds the fuel. -/
def flatten (place : NodeId) : Interpret Unit := do
  let (parts, merges) := sizes (← get).graph
  flattenFrom (Nat.pow (parts + 2) (merges + 3)) place 0 []

/-! ### Collections -/

/-- Finds the meanings of the pairs of a mapping, merged ones included; the keys have to be scalars. -/
def understandPairs (place : NodeId) : Interpret (List (Meaning × NodeId × NodeId)) := do
  flatten place
  (← pairsOf place).mapM fun (key, value) => do
    understand key
    match ← meaning? key with
    | some meaning =>
      if !meaning.isScalar then fail
      understand value
      return (meaning, key, value)
    | none => fail

/-- The members of a mapping whose keys are texts. -/
def members (pairs : List (Meaning × NodeId × NodeId)) : Fields NodeId :=
  Fields.ofPairs <| pairs.filterMap fun (meaning, _, value) =>
    match meaning with
    | .text name => some (name, value)
    | _ => none

/-- The keys of a mapping, each once. -/
def elements (pairs : List (Meaning × NodeId × NodeId)) : List NodeId :=
  let keys : List (Meaning × NodeId) := pairs.map fun (meaning, key, _) => (meaning, key)
  (keys.eraseDupsBy fun (a, key) (b, other) => key == other || a.isSameKey b).map Prod.snd

/-- The only pair of a mapping, with its meanings. -/
def solePair (place : NodeId) : Interpret (NodeId × NodeId) := do
  match (← node place).content with
  | .mapping [(key, value)] =>
    understand key
    understand value
    return (key, value)
  | _ => fail

/-- Finds the meanings of the parts of a collection. -/
def understandParts (place : NodeId) : Interpret Unit := do
  let node ← node place
  match node.tag, node.content with
  | .list, .sequence items =>
    items.forM understand
    settle place (.list items)
  | .map, .mapping _ => settle place (.object (members (← understandPairs place)))
  | .set, .mapping _ => settle place (.list (elements (← understandPairs place)))
  | .orderedMap, .sequence items => settle place (.pairs (← items.mapM solePair))
  | .pairs, .sequence items => settle place (.pairs (← items.mapM solePair))
  | _, _ => fail

/-- Finds the meanings of the parts of all collections met, those from a place on. -/
def understandAll : Nat → Nat → Interpret Unit
  | 0, _ => return
  | fuel + 1, position => do
    match (← get).collections[position]? with
    | none => return
    | some place =>
      understandParts place
      understandAll fuel (position + 1)

end Interpret

/-- The meanings of the nodes that belong to a root; every other node means null. -/
def Graph.meanings (graph : Graph) (root : NodeId) : Except Fault (Array Meaning) := do
  let search : Interpret Unit := do
    Interpret.understand root
    Interpret.understandAll (graph.size + 1) 0
  let ((), found) ← search.run { graph := graph, meanings := .replicate graph.size none }
  return found.meanings.map fun meaning => meaning.getD .null

/-! ### The value of a document -/

/-- The value of a meaning, given the values of all nodes. -/
def Meaning.value (parts : Array Value) : Meaning → Value
  | null => .null
  | truth holds => .bool holds
  | integer n => .int n
  | number x => .number x
  | text t => .text t
  | bytes content => .bytes content
  | instant _ => .null
  | list items => .list (items.map fun item => parts.getD item .null)
  | pairs items =>
    .list (items.map fun (key, value) => .list [parts.getD key .null, parts.getD value .null])
  | object members => .object (members.map fun (name, value) => (name, parts.getD value .null))

/-- The values of all nodes, so many levels deep. -/
def valuesOf (meanings : Array Meaning) : Nat → Array Value
  | 0 => #[]
  | depth + 1 =>
    let parts := valuesOf meanings depth
    meanings.map (Meaning.value parts)

/-- The value of the only document of a text, so many levels deep; null if there is none. -/
def read (depth : Nat) (t : Text) : Except Fault Value := do
  let (graph, root) ← Graph.ofTokens? (tokens t)
  match root with
  | none => return .null
  | some root => return (valuesOf (← graph.meanings root) depth).getD root .null

end AlarmFeed.Yaml
