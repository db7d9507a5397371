import TaggerFeatures.Settings.Reader
import TaggerFeatures.Yaml.Node
import TaggerFeatures.Yaml.Scalar
import TaggerFeatures.Yaml.Token.Layout

/-!
The values of a YAML document. Collections have places, as nodes have, since a value may hold
itself. They are built level by level: those of an outer level are complete before the next level
is looked at.
-/
namespace TaggerFeatures.Yaml

/-- A value: a scalar, or the collection at a place. -/
inductive Item
  | scalar (s : Scalar)
  | collection (place : Nat)
deriving DecidableEq, Repr

/-- A collection. The keys of a mapping keep their order, and so do the members of a set. -/
inductive Collection
  | list (items : List Item)
  | pairs (pairs : List (Item × Item))
  | mapping (pairs : List (Scalar × Item))
  | set (members : List Scalar)
deriving DecidableEq, Repr

/-- The collections of a document by their places, and its outermost value. -/
structure Document where
  collections : Array Collection
  root : Item
deriving DecidableEq, Repr

/-! ## Merge keys -/

namespace Graph

def pairsAt (nodes : Array Node) (place : Nat) : List (Nat × Nat) :=
  match nodes[place]? with
  | some ⟨_, .mapping pairs⟩ => pairs
  | _ => []

/-- Gives the mapping at a place other pairs. -/
def setPairs (nodes : Array Node) (place : Nat) (pairs : List (Nat × Nat)) : Array Node :=
  nodes.modify place fun node => { node with content := .mapping pairs }

/-- Whether the node at a place is of a kind. -/
def isOfKind (nodes : Array Node) (kind : Kind) (place : Nat) : Bool :=
  (nodes[place]?).any (·.kind == kind)

/-- Makes a key `=` a text. -/
def asTextKey (nodes : Array Node) (place : Nat) : Array Node :=
  nodes.modify place fun node => if node.kind = .default then { node with kind := .text } else node

/-- The value of the first merge key, and the pairs without it. -/
def takeMerge (nodes : Array Node) : List (Nat × Nat) → Option (Nat × List (Nat × Nat))
  | [] => none
  | (key, value) :: rest =>
    if isOfKind nodes .merge key then some (value, rest)
    else (takeMerge nodes rest).map fun (found, others) => (found, (key, value) :: others)

/-- Replaces the merge keys of a mapping by the pairs that they bring in, which come first; of a
list of mappings the last comes first. There are at most `fuel` merge keys. -/
def flatten : (fuel : Nat) → (place : Nat) → (merged : List (Nat × Nat)) → Array Node →
    Except Error (Array Node)
  | fuel, place, merged, nodes =>
    match takeMerge nodes (pairsAt nodes place) with
    | none =>
      let pairs := merged ++ pairsAt nodes place
      .ok (pairs.foldl (fun nodes (key, _) => asTextKey nodes key) (setPairs nodes place pairs))
    | some (value, others) =>
      match fuel with
      | 0 => .error .malformed
      | fuel + 1 => do
        let nodes := setPairs nodes place others
        match (nodes[value]?).map Node.content with
        | some (.mapping _) =>
          let nodes ← flatten fuel value [] nodes
          flatten fuel place (merged ++ pairsAt nodes value) nodes
        | some (.sequence items) =>
          let (parts, nodes) ← items.foldlM (fun (parts, nodes) item =>
            match (nodes[item]?).map Node.content with
            | some (.mapping _) => do
              let nodes ← flatten fuel item [] nodes
              .ok (pairsAt nodes item :: parts, nodes)
            | _ => .error Error.malformed) (([] : List (List (Nat × Nat))), nodes)
          flatten fuel place (merged ++ parts.flatten) nodes
        | _ => .error .malformed

/-- The text of a node that is to be a scalar: of a mapping, the value of its key `=`. -/
def textAt (nodes : Array Node) : (fuel : Nat) → (place : Nat) → Except Error String
  | 0, _ => .error .malformed
  | fuel + 1, place =>
    match (nodes[place]?).map Node.content with
    | some (.scalar s) => .ok s
    | some (.mapping pairs) =>
      match pairs.find? fun (key, _) => isOfKind nodes .default key with
      | some (_, value) => textAt nodes fuel value
      | none => .error .malformed
    | _ => .error .malformed

end Graph

/-! ## Building -/

/-- Puts a pair at the end, or its value at the place of an equal key. -/
def putPair (key : Scalar) (value : Item) : List (Scalar × Item) → List (Scalar × Item)
  | [] => [(key, value)]
  | (k, v) :: rest =>
    if k.same key then (k, value) :: rest else (k, v) :: putPair key value rest

/-- What has been built: the values of nodes, collections, and the nodes, with the places of their
collections, whose collections are still empty. -/
structure Building where
  nodes : Array Node
  items : List (Nat × Item) := []
  collections : Array Collection := #[]
  waiting : List (Nat × Nat) := []

namespace Building

def emptyOf? : Kind → Option Collection
  | .sequence => some (.list [])
  | .pairs => some (.pairs [])
  | .mapping => some (.mapping [])
  | .set => some (.set [])
  | _ => none

def note (place : Nat) (item : Item) (b : Building) : Item × Building :=
  (item, { b with items := (place, item) :: b.items })

def scalarAt (b : Building) (place : Nat) (node : Node) : Except Error Scalar := do
  let text ← Graph.textAt b.nodes (b.nodes.size + 1) place
  match node.kind, node.content with
  | .time, .mapping _ => .error .timeOfMapping
  | kind, _ => Scalar.read place kind text

/-- The value of the node at a place. A collection is empty at first. -/
def itemAt (place : Nat) (b : Building) : Except Error (Item × Building) :=
  match b.items.lookup place, b.nodes[place]? with
  | some item, _ => .ok (item, b)
  | none, none => .error .malformed
  | none, some node =>
    match emptyOf? node.kind with
    | some collection =>
      let target := b.collections.size
      .ok ({ b with
        collections := b.collections.push collection
        waiting := b.waiting ++ [(place, target)] }.note place (.collection target))
    | none =>
      if [.merge, .default, .other].contains node.kind then .error .malformed
      else do .ok (b.note place (.scalar (← b.scalarAt place node)))

def itemsAt : List Nat → Building → Except Error (List Item × Building)
  | [], b => .ok ([], b)
  | place :: rest, b => do
    let (item, b) ← b.itemAt place
    let (more, b) ← itemsAt rest b
    .ok (item :: more, b)

/-- The pairs of a mapping behind those that were read. Collections are no keys. -/
def pairsAt (read : List (Scalar × Item)) :
    List (Nat × Nat) → Building → Except Error (List (Scalar × Item) × Building)
  | [], b => .ok (read, b)
  | (key, value) :: rest, b => do
    match ← b.itemAt key with
    | (.scalar key, b) =>
      let (value, b) ← b.itemAt value
      pairsAt (putPair key value read) rest b
    | (.collection _, _) => .error .malformed

/-- The pairs in a list of mappings of one pair each. -/
def singlePairsAt : List Nat → Building → Except Error (List (Item × Item) × Building)
  | [], b => .ok ([], b)
  | place :: rest, b =>
    match (b.nodes[place]?).map Node.content with
    | some (.mapping [(key, value)]) => do
      let (key, b) ← b.itemAt key
      let (value, b) ← b.itemAt value
      let (more, b) ← singlePairsAt rest b
      .ok ((key, value) :: more, b)
    | _ => .error .malformed

/-- The pairs of the mapping at a place, with merge keys replaced. -/
def mappingAt (place : Nat) (b : Building) :
    Except Error (List (Scalar × Item) × Building) := do
  match (b.nodes[place]?).map Node.content with
  | some (.mapping _) =>
    let nodes ← Graph.flatten b.nodes.size place [] b.nodes
    pairsAt [] (Graph.pairsAt nodes place) { b with nodes }
  | _ => .error .malformed

/-- The contents of the collection of a node. -/
def collectionAt (place : Nat) (b : Building) : Except Error (Collection × Building) := do
  match b.nodes[place]? with
  | some ⟨.sequence, .sequence items⟩ =>
    let (items, b) ← b.itemsAt items
    .ok (.list items, b)
  | some ⟨.pairs, .sequence items⟩ =>
    let (pairs, b) ← b.singlePairsAt items
    .ok (.pairs pairs, b)
  | some ⟨.mapping, _⟩ =>
    let (pairs, b) ← b.mappingAt place
    .ok (.mapping pairs, b)
  | some ⟨.set, _⟩ =>
    let (pairs, b) ← b.mappingAt place
    .ok (.set (pairs.map (·.1)), b)
  | _ => .error .malformed

/-- Fills the collections that wait, and those that come to wait. Every node waits at most once. -/
def complete : (fuel : Nat) → Building → Except Error Building
  | 0, b => .ok b
  | fuel + 1, b =>
    match b.waiting with
    | [] => .ok b
    | (place, target) :: rest => do
      let (collection, b) ← { b with waiting := rest }.collectionAt place
      complete fuel { b with collections := b.collections.setIfInBounds target collection }

end Building

namespace Document

def ofScalar (s : Scalar) : Document := ⟨#[], .scalar s⟩

def ofGraph (g : Graph) : Except Error Document := do
  let start : Building := { nodes := g.nodes }
  let (root, b) ← start.itemAt g.root
  let b ← b.complete (g.nodes.size + 1)
  .ok ⟨b.collections, root⟩

/-- The document of a text; an empty one has the value null. -/
def ofText (s : List Char) : Except Error Document := do
  match ← Graph.ofTokens (Token.ofText s) with
  | some graph => ofGraph graph
  | none => .ok (ofScalar .null)

def collection (d : Document) (place : Nat) : Collection := d.collections.getD place (.list [])

/-! ## Written forms -/

def brackets : Collection → String × String
  | .list _ => ("[", "]")
  | .pairs _ => ("[", "]")
  | .mapping _ => ("\x7b", "\x7d")
  | .set _ => ("\x7b", "\x7d")

/-- The members of a set in the order of their written forms: whole numbers ascend. -/
def orderedMembers (members : List Scalar) : List Scalar :=
  let numbers := members.filterMap fun
    | .integer n => some n
    | _ => none
  if numbers.length = members.length then (numbers.mergeSort (· ≤ ·)).map .integer else members

/-- How many values may be nested in one that is written. -/
def maxNesting : Nat := 996

/-- What is written, unless it has too many digits. -/
def orTooLong : Option String → Except Settings.Unwritten String
  | some written => .ok written
  | none => .error .tooLong

/-- The written form of a value inside the collections `around`, at most `depth` values deep. Where
one of these collections comes again, dots stand for what is in it. -/
def writeInner (d : Document) : (depth : Nat) → (around : List Nat) → Item →
    Except Settings.Unwritten String
  | 0, _, _ => .error .tooDeep
  | _ + 1, _, .scalar s => orTooLong s.inner?
  | depth + 1, around, .collection place =>
    let collection := d.collection place
    let (left, right) := brackets collection
    if around.contains place then .ok (left ++ "..." ++ right)
    else do
      let write := d.writeInner depth (place :: around)
      let parts ← match collection with
        | .list items => items.mapM write
        | .pairs pairs => pairs.mapM fun (key, value) => do
          .ok ("(" ++ (← write key) ++ ", " ++ (← write value) ++ ")")
        | .mapping pairs => pairs.mapM fun (key, value) => do
          .ok ((← write (.scalar key)) ++ ": " ++ (← write value))
        | .set members => (orderedMembers members).mapM fun member => write (.scalar member)
      match collection, parts with
      | .set _, [] => .ok "set()"
      | _, parts => .ok (left ++ Text.joinWith ", " parts ++ right)

/-- The written form of a value by itself. -/
def write (d : Document) : Item → Except Settings.Unwritten String
  | .scalar s => orTooLong s.print?
  | item => d.writeInner maxNesting [] item

end Document
end TaggerFeatures.Yaml
