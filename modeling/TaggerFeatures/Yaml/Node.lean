import TaggerFeatures.Yaml.Kind
import TaggerFeatures.Yaml.Token

/-!
The nodes of a YAML document. A node has a place in a table, and collections hold places, so that a
node with a name can stand in several collections, also inside itself.
-/
namespace TaggerFeatures.Yaml

/-- What a node holds: the nodes inside a collection are given by their places. -/
inductive Content
  | scalar (text : String)
  | sequence (items : List Nat)
  | mapping (pairs : List (Nat × Nat))
deriving DecidableEq, Repr

structure Node where
  kind : Kind
  content : Content
deriving DecidableEq, Repr

namespace Node

/-- What stands where nothing is written. -/
def absent : Node := ⟨.null, .scalar ""⟩

/-- A scalar: its kind is told by its tag, by its form if it is plain or has the tag `!`, or it is
text. -/
def scalar (tag : Option String) (plain : Bool) (text : String) : Node :=
  let kind := match tag with
    | none => if plain then Kind.ofForm text else .text
    | some "!" => Kind.ofForm text
    | some tag => Kind.ofTag tag
  ⟨kind, .scalar text⟩

/-- The kind of a collection: by its tag, or the usual one. -/
def collectionKind (tag : Option String) (usual : Kind) : Kind :=
  match tag with
  | none => usual
  | some "!" => usual
  | some tag => Kind.ofTag tag

def sequence (tag : Option String) : Node := ⟨collectionKind tag .sequence, .sequence []⟩

def mapping (tag : Option String) : Node := ⟨collectionKind tag .mapping, .mapping []⟩

end Node

/-- The nodes of a document by their places, and the place of the outermost one. -/
structure Graph where
  nodes : Array Node
  root : Nat

namespace Graph

/-- The tokens that are left, the nodes so far, the places of the nodes that have names, and the
beginnings that handles of tags stand for. -/
structure Reader where
  tokens : List Token
  nodes : Array Node := #[]
  named : List (String × Nat) := []
  handles : List (String × String) := [("!", "!"), ("!!", Kind.space)]

namespace Reader

def peek (r : Reader) : Option Token := r.tokens.head?

def advance (r : Reader) : Reader := { r with tokens := r.tokens.tail }

def sees (r : Reader) (expected : List Token) : Bool :=
  match r.peek with
  | some t => expected.contains t
  | none => false

def unexpected (r : Reader) : Error :=
  match r.peek with
  | some (.failure e) => e
  | _ => .malformed

def takeAnchor (r : Reader) : Option String × Reader :=
  match r.peek with
  | some (.anchor name) => (some name, r.advance)
  | _ => (none, r)

def takeTag (r : Reader) : Option (Option String × String) × Reader :=
  match r.peek with
  | some (.tag handle suffix) => (some (handle, suffix), r.advance)
  | _ => (none, r)

/-- A tag with its handle replaced, if the handle is known. -/
def replaceHandle? (r : Reader) : Option String × String → Option String
  | (none, suffix) => some suffix
  | (some handle, suffix) => (r.handles.lookup handle).map (· ++ suffix)

/-- An anchor and a tag, in either order. No name may be given twice. Behind a tag alone, and behind
a name, the next token is looked at before a fault of theirs is told. -/
def takeProperties (r : Reader) : Except Error (Option String × Option String × Reader) := do
  let (before, r) := r.takeAnchor
  let (written, r) := r.takeTag
  let (anchor, r) := match before, written with
    | none, some _ => r.takeAnchor
    | _, _ => (before, r)
  let tag ← match written with
    | none => .ok none
    | some tag =>
      match r.replaceHandle? tag with
      | some tag => .ok (some tag)
      | none => .error (if anchor.isSome then .malformed else r.unexpected)
  match anchor with
  | some name =>
    if (r.named.lookup name).isSome then .error r.unexpected else .ok (anchor, tag, r)
  | none => .ok (anchor, tag, r)

/-- Puts a node into the table, and tells its place. -/
def add (node : Node) (r : Reader) : Nat × Reader :=
  (r.nodes.size, { r with nodes := r.nodes.push node })

/-- Puts a node into the table under the name that its anchor gives. -/
def addNamed (anchor : Option String) (node : Node) (r : Reader) : Nat × Reader :=
  let (place, r) := r.add node
  match anchor with
  | some name => (place, { r with named := (name, place) :: r.named })
  | none => (place, r)

def fill (place : Nat) (content : Content) (r : Reader) : Reader :=
  { r with nodes := r.nodes.modify place fun node => { node with content } }

end Reader

mutual

/-- Reads a node. Outside brackets it may be a block, and behind a key a sequence of the same
indentation. -/
def read (block sameIndent : Bool) : (fuel : Nat) → Reader → Except Error (Nat × Reader)
  | 0, _ => .error .malformed
  | fuel + 1, r =>
    match r.peek with
    | some (.reference name) =>
      match r.named.lookup name with
      | some place => .ok (place, r.advance)
      | none => .error .malformed
    | _ => do
      let (anchor, tag, r) ← r.takeProperties
      readContent block sameIndent anchor tag fuel r

/-- Reads what follows the anchor and the tag of a node. -/
def readContent (block sameIndent : Bool) (anchor tag : Option String) :
    (fuel : Nat) → Reader → Except Error (Nat × Reader)
  | 0, _ => .error .malformed
  | fuel + 1, r =>
    let nothing (e : Error) : Except Error (Nat × Reader) :=
      if anchor.isSome || tag.isSome then .ok (r.addNamed anchor (.scalar tag true ""))
      else .error e
    match r.peek, block with
    | some .blockEntry, _ =>
      if sameIndent then do
        let (place, r) := r.addNamed anchor (.sequence tag)
        let (items, r) ← readEntries fuel r
        .ok (place, r.fill place (.sequence items))
      else nothing .malformed
    | some (.scalar text plain), _ => .ok (r.advance.addNamed anchor (.scalar tag plain text))
    | some .flowSequenceStart, _ => do
      let (place, r) := r.advance.addNamed anchor (.sequence tag)
      let (items, r) ← readFlowItems true fuel r
      .ok (place, r.fill place (.sequence items))
    | some .flowMappingStart, _ => do
      let (place, r) := r.advance.addNamed anchor (.mapping tag)
      let (pairs, r) ← readFlowPairs true fuel r
      .ok (place, r.fill place (.mapping pairs))
    | some .blockSequenceStart, true => do
      let (place, r) := r.advance.addNamed anchor (.sequence tag)
      let (items, r) ← readItems fuel r
      .ok (place, r.fill place (.sequence items))
    | some .blockMappingStart, true => do
      let (place, r) := r.advance.addNamed anchor (.mapping tag)
      let (pairs, r) ← readPairs fuel r
      .ok (place, r.fill place (.mapping pairs))
    | _, _ => nothing r.unexpected

/-- Reads a node, or nothing before one of the tokens `ends`. -/
def readOr (block sameIndent : Bool) (ends : List Token) :
    (fuel : Nat) → Reader → Except Error (Nat × Reader)
  | 0, _ => .error .malformed
  | fuel + 1, r => if r.sees ends then .ok (r.add .absent) else read block sameIndent fuel r

def readItems : (fuel : Nat) → Reader → Except Error (List Nat × Reader)
  | 0, _ => .error .malformed
  | fuel + 1, r =>
    match r.peek with
    | some .blockEntry => do
      let (item, r) ← readOr true false [.blockEntry, .blockEnd] fuel r.advance
      let (more, r) ← readItems fuel r
      .ok (item :: more, r)
    | some .blockEnd => .ok ([], r.advance)
    | _ => .error r.unexpected

/-- Reads the items of a sequence that is not indented. -/
def readEntries : (fuel : Nat) → Reader → Except Error (List Nat × Reader)
  | 0, _ => .error .malformed
  | fuel + 1, r =>
    match r.peek with
    | some .blockEntry => do
      let (item, r) ← readOr true false [.blockEntry, .key, .value, .blockEnd] fuel r.advance
      let (more, r) ← readEntries fuel r
      .ok (item :: more, r)
    | _ => .ok ([], r)

def readPairs : (fuel : Nat) → Reader → Except Error (List (Nat × Nat) × Reader)
  | 0, _ => .error .malformed
  | fuel + 1, r =>
    match r.peek with
    | some .key => do
      let (key, r) ← readOr true true [.key, .value, .blockEnd] fuel r.advance
      let (value, r) ←
        if r.sees [.value] then readOr true true [.key, .value, .blockEnd] fuel r.advance
        else .ok (r.add .absent)
      let (more, r) ← readPairs fuel r
      .ok ((key, value) :: more, r)
    | some .blockEnd => .ok ([], r.advance)
    | _ => .error r.unexpected

/-- Reads the value of a pair inside brackets, if a colon is there. -/
def readFlowValue (ending : Token) : (fuel : Nat) → Reader → Except Error (Nat × Reader)
  | 0, _ => .error .malformed
  | fuel + 1, r =>
    if r.sees [.value] then readOr false false [.flowEntry, ending] fuel r.advance
    else .ok (r.add .absent)

/-- Reads the items of a sequence in brackets; a single pair is a mapping. -/
def readFlowItems (first : Bool) : (fuel : Nat) → Reader → Except Error (List Nat × Reader)
  | 0, _ => .error .malformed
  | fuel + 1, r =>
    if r.sees [.flowSequenceEnd] then .ok ([], r.advance)
    else if !first && !r.sees [.flowEntry] then .error r.unexpected
    else
      let r := if first then r else r.advance
      if r.sees [.key] then do
        let (place, r) := r.advance.add (.mapping none)
        let (key, r) ← readOr false false [.value, .flowEntry, .flowSequenceEnd] fuel r
        let (value, r) ← readFlowValue .flowSequenceEnd fuel r
        let (more, r) ← readFlowItems false fuel (r.fill place (.mapping [(key, value)]))
        .ok (place :: more, r)
      else if r.sees [.flowSequenceEnd] then .ok ([], r.advance)
      else do
        let (item, r) ← read false false fuel r
        let (more, r) ← readFlowItems false fuel r
        .ok (item :: more, r)

/-- Reads the pairs of a mapping in braces; a node without a colon is a key without a value. -/
def readFlowPairs (first : Bool) :
    (fuel : Nat) → Reader → Except Error (List (Nat × Nat) × Reader)
  | 0, _ => .error .malformed
  | fuel + 1, r =>
    if r.sees [.flowMappingEnd] then .ok ([], r.advance)
    else if !first && !r.sees [.flowEntry] then .error r.unexpected
    else
      let r := if first then r else r.advance
      if r.sees [.key] then do
        let (key, r) ← readOr false false [.value, .flowEntry, .flowMappingEnd] fuel r.advance
        let (value, r) ← readFlowValue .flowMappingEnd fuel r
        let (more, r) ← readFlowPairs false fuel r
        .ok ((key, value) :: more, r)
      else if r.sees [.flowMappingEnd] then .ok ([], r.advance)
      else do
        let (key, r) ← read false false fuel r
        let (value, r) := r.add .absent
        let (more, r) ← readFlowPairs false fuel r
        .ok ((key, value) :: more, r)

end

/-- Takes the directives before a document. The version is given at most once and is 1, and a
handle is given at most once. -/
def readDirectives (versioned : Bool) (given : List (String × String)) :
    List Token → Except Error (List (String × String) × List Token)
  | .directive (.version major) :: rest =>
    if versioned || major != 1 then .error .malformed else readDirectives true given rest
  | .directive (.handle name replacement) :: rest =>
    if given.any (·.1 == name) then .error .malformed
    else readDirectives versioned ((name, replacement) :: given) rest
  | .directive .other :: rest => readDirectives versioned given rest
  | tokens => .ok (given, tokens)

/-- Whether nothing but the end follows a document. -/
def readEnd (r : Reader) : Except Error Unit :=
  match r.tokens.dropWhile (· == .documentEnd) with
  | [.streamEnd] => .ok ()
  | rest => do
    let (_, tokens) ← readDirectives false [] rest
    .error (Reader.unexpected { tokens })

def readDocument (read : Reader → Except Error (Nat × Reader)) (r : Reader) :
    Except Error Graph := do
  let (root, r) ← read r
  readEnd r
  .ok ⟨r.nodes, root⟩

/-- The nodes of the only document of a text; nothing if the text is empty. -/
def ofTokens (tokens : List Token) : Except Error (Option Graph) := do
  let fuel := 4 * tokens.length + 4
  match tokens with
  | [.streamEnd] => .ok none
  | .directive _ :: _ | .documentStart :: _ =>
    let (given, tokens) ← readDirectives false [] tokens
    match tokens with
    | .documentStart :: tokens =>
      let start : Reader := { tokens }
      let r : Reader := { start with handles := given ++ start.handles }
      let stops : Bool := match r.peek with
        | some (.directive _) | some .documentStart | some .documentEnd | some .streamEnd => true
        | _ => false
      let graph ← readDocument (fun r => if stops then .ok (r.add .absent)
        else read true false fuel r) r
      .ok (some graph)
    | tokens => .error (Reader.unexpected { tokens })
  | tokens =>
    let graph ← readDocument (read true false fuel) { tokens }
    .ok (some graph)

end Graph
end TaggerFeatures.Yaml
