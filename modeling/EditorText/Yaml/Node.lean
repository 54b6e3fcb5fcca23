import EditorText.Yaml.Lexer
import EditorText.Yaml.Resolve

/-!
# From tokens to nodes

A document is a node with the nodes below it. Nodes are kept in a list and refer to each other by
number, since an alias may stand for any node before it, also for one that it is part of.
`Document.ofTokens` reads the one document that a stream may hold.
-/

set_option autoImplicit false

namespace EditorText.Yaml

/-- The number of a node. -/
abbrev NodeId := Nat

/-- What a node holds. -/
inductive Content where
  | scalar (text : Text)
  | sequence (items : List NodeId)
  | mapping (entries : List (NodeId × NodeId))
  deriving DecidableEq, Repr

/-- A node. -/
structure Node where
  tag : Tag
  content : Content
  deriving DecidableEq, Repr

/-- The nodes of a document by number, and the number of the topmost one. -/
structure Document where
  nodes : Array Node
  top : NodeId

/-- The state of a reader of nodes: the tokens left, the nodes made, the nodes with an anchor, and
the addresses that tag handles stand for. -/
structure Reading where
  left : Tokens
  nodes : Array Node := #[]
  anchors : List (Text × NodeId) := []
  handles : List (Text × Text) := []

/-- A step of a reader of nodes. -/
abbrev Reader := StateT Reading (Except Problem)

/-- The handles that stand for an address without a directive. -/
def usualHandles : List (Text × Text) :=
  [([33], [33]), ([33, 33], coreTags)]

namespace Reader

/-- Fails with a problem of tokens. -/
def fail {α : Type} (p : NodeProblem) : Reader α :=
  throw (.node p)

/-- The next token. -/
def peek : Reader Token := do
  let s ← get
  match s.left.tokens with
  | t :: _ => return t
  | [] => throw (s.left.problem.getD .tooDeep)

/-- Takes the next token. -/
def take : Reader Unit :=
  modify fun s => { s with left := { s.left with tokens := s.left.tokens.drop 1 } }

/-- Adds a node. -/
def add (n : Node) : Reader NodeId := do
  let s ← get
  set { s with nodes := s.nodes.push n }
  return s.nodes.size

/-- Gives a collection its content. -/
def fill (id : NodeId) (tag : Tag) (content : Content) : Reader NodeId := do
  modify fun s => { s with nodes := s.nodes.setIfInBounds id ⟨tag, content⟩ }
  return id

/-- A scalar that is not written. -/
def nothingWritten : Reader NodeId :=
  add ⟨.null, .scalar []⟩

/-- The full form of a tag. -/
def fullTag (handle : Option Text) (suffix : Text) : Reader Text := do
  match handle with
  | none => return suffix
  | some h =>
    match (← get).handles.lookup h with
    | some address => return address ++ suffix
    | none => fail .handleNotKnown

/-- The anchor before a node, if there is one. -/
def anchor? : Reader (Option Text) := do
  match ← peek with
  | .anchor name =>
    take
    return some name
  | _ => return none

/-- The tag before a node, if there is one. -/
def tag? : Reader (Option (Option Text × Text)) := do
  match ← peek with
  | .tag handle suffix =>
    take
    return some (handle, suffix)
  | _ => return none

/-- Anchor and tag before a node, in either order. -/
def properties : Reader (Option Text × Option Text) := do
  let name ← anchor?
  let tag ← tag?
  let name ← match name, tag with
    | none, some _ => anchor?
    | _, _ => pure name
  match tag with
  | none => return (name, none)
  | some (handle, suffix) => return (name, some (← fullTag handle suffix))

/-- An anchor may be set once. -/
def checkAnchor (name : Option Text) : Reader Unit := do
  if let some n := name then
    if ((← get).anchors.lookup n).isSome then throw (.document (.anchorTwice n))

/-- Remembers a node under its anchor. -/
def remember (name : Option Text) (id : NodeId) : Reader Unit := do
  if let some n := name then
    modify fun s => { s with anchors := (n, id) :: s.anchors }

/-- A scalar with its properties. Without a tag, or with the tag `!`, a scalar has its tag by its
form; one that is quoted and has no tag is text. -/
def scalar (name tag : Option Text) (text : Text) (plain : Bool) : Reader NodeId := do
  checkAnchor name
  let found := match tag with
    | none => if plain then plainTag text else .text
    | some [33] => plainTag text
    | some t => Tag.ofText t
  let id ← add ⟨found, .scalar text⟩
  remember name id
  return id

/-- A collection with its properties and still without content. -/
def collection (name tag : Option Text) (usual : Tag) (empty : Content) :
    Reader (NodeId × Tag) := do
  checkAnchor name
  let found := match tag with
    | none | some [33] => usual
    | some t => Tag.ofText t
  let id ← add ⟨found, empty⟩
  remember name id
  return (id, found)

/-- The node that an alias stands for. -/
def aliased (name : Text) : Reader NodeId := do
  match (← get).anchors.lookup name with
  | some id => return id
  | none => throw (.document (.unknownAlias name))

mutual

/-- A node. In block context it may be a block collection, and as a value of a mapping a sequence
that is not indented deeper. -/
def node (block unindented : Bool) : Nat → Reader NodeId
  | 0 => throw .tooDeep
  | fuel + 1 => do
    if let .alias name ← peek then
      take
      return ← aliased name
    let (name, tag) ← properties
    match ← peek with
    | .scalar text plain =>
      take
      scalar name tag text plain
    | .flowSequenceStart =>
      let (id, found) ← collection name tag .sequence (.sequence [])
      take
      fill id found (.sequence (← flowItems true [] fuel))
    | .flowMappingStart =>
      let (id, found) ← collection name tag .mapping (.mapping [])
      take
      fill id found (.mapping (← flowEntries true [] fuel))
    | .blockEntry =>
      if unindented then
        let (id, found) ← collection name tag .sequence (.sequence [])
        fill id found (.sequence (← dashedItems [] fuel))
      else noContent name tag
    | .blockSequenceStart =>
      if block then
        let (id, found) ← collection name tag .sequence (.sequence [])
        take
        fill id found (.sequence (← blockItems [] fuel))
      else noContent name tag
    | .blockMappingStart =>
      if block then
        let (id, found) ← collection name tag .mapping (.mapping [])
        take
        fill id found (.mapping (← blockEntries [] fuel))
      else noContent name tag
    | _ => noContent name tag

/-- Properties without content make an empty scalar; without properties there is no node. -/
def noContent (name tag : Option Text) : Reader NodeId :=
  if name.isNone && tag.isNone then fail .missingContent
  else scalar name tag [] true

/-- The items of a block sequence. -/
def blockItems (sofar : List NodeId) : Nat → Reader (List NodeId)
  | 0 => throw .tooDeep
  | fuel + 1 => do
    match ← peek with
    | .blockEntry =>
      take
      let item ← match ← peek with
        | .blockEntry | .blockEnd => nothingWritten
        | _ => node true false fuel
      blockItems (item :: sofar) fuel
    | .blockEnd =>
      take
      return sofar.reverse
    | _ => fail .blockEndMissing

/-- The items of a sequence that is not indented deeper than the mapping around it. -/
def dashedItems (sofar : List NodeId) : Nat → Reader (List NodeId)
  | 0 => throw .tooDeep
  | fuel + 1 => do
    match ← peek with
    | .blockEntry =>
      take
      let item ← match ← peek with
        | .blockEntry | .key | .value | .blockEnd => nothingWritten
        | _ => node true false fuel
      dashedItems (item :: sofar) fuel
    | _ => return sofar.reverse

/-- A key or value of a block mapping, which need not be written. -/
def blockPart : Nat → Reader NodeId
  | 0 => throw .tooDeep
  | fuel + 1 => do
    match ← peek with
    | .key | .value | .blockEnd => nothingWritten
    | _ => node true true fuel

/-- The entries of a block mapping. -/
def blockEntries (sofar : List (NodeId × NodeId)) : Nat → Reader (List (NodeId × NodeId))
  | 0 => throw .tooDeep
  | fuel + 1 => do
    match ← peek with
    | .key =>
      take
      let k ← blockPart fuel
      let v ← match ← peek with
        | .value => do
          take
          blockPart fuel
        | _ => nothingWritten
      blockEntries ((k, v) :: sofar) fuel
    | .blockEnd =>
      take
      return sofar.reverse
    | _ => fail .blockEndMissing

/-- The items of a flow sequence. An item may be a mapping of one entry without braces. -/
def flowItems (first : Bool) (sofar : List NodeId) : Nat → Reader (List NodeId)
  | 0 => throw .tooDeep
  | fuel + 1 => do
    if (← peek) = .flowSequenceEnd then
      take
      return sofar.reverse
    if !first then
      if (← peek) = .flowEntry then take else fail .flowSequence
    match ← peek with
    | .key =>
      let (id, found) ← collection none none .mapping (.mapping [])
      take
      let k ← match ← peek with
        | .value | .flowEntry | .flowSequenceEnd => nothingWritten
        | _ => node false false fuel
      let v ← match ← peek with
        | .value => do
          take
          match ← peek with
          | .flowEntry | .flowSequenceEnd => nothingWritten
          | _ => node false false fuel
        | _ => nothingWritten
      let item ← fill id found (.mapping [(k, v)])
      flowItems false (item :: sofar) fuel
    | .flowSequenceEnd =>
      take
      return sofar.reverse
    | _ =>
      let item ← node false false fuel
      flowItems false (item :: sofar) fuel

/-- The entries of a flow mapping. A key without a colon has no value. -/
def flowEntries (first : Bool) (sofar : List (NodeId × NodeId)) :
    Nat → Reader (List (NodeId × NodeId))
  | 0 => throw .tooDeep
  | fuel + 1 => do
    if (← peek) = .flowMappingEnd then
      take
      return sofar.reverse
    if !first then
      if (← peek) = .flowEntry then take else fail .flowMapping
    match ← peek with
    | .key =>
      take
      let k ← match ← peek with
        | .value | .flowEntry | .flowMappingEnd => nothingWritten
        | _ => node false false fuel
      let v ← match ← peek with
        | .value => do
          take
          match ← peek with
          | .flowEntry | .flowMappingEnd => nothingWritten
          | _ => node false false fuel
        | _ => nothingWritten
      flowEntries false ((k, v) :: sofar) fuel
    | .flowMappingEnd =>
      take
      return sofar.reverse
    | _ =>
      let k ← node false false fuel
      let v ← nothingWritten
      flowEntries false ((k, v) :: sofar) fuel

end

/-- The directives before a document: at most one version, which must be of the first kind, and each
handle at most once. -/
def directives (versionSeen : Bool) (handles : List (Text × Text)) :
    Nat → Reader (List (Text × Text))
  | 0 => throw .tooDeep
  | fuel + 1 => do
    match ← peek with
    | .directive (.version major _) =>
      take
      if versionSeen then fail .directiveTwice
      if major ≠ 1 then fail .versionNotKnown
      directives true handles fuel
    | .directive (.handle name address) =>
      take
      if (handles.lookup name).isSome then fail .handleTwice
      directives versionSeen ((name, address) :: handles) fuel
    | .directive (.other _) =>
      take
      directives versionSeen handles fuel
    | _ => return handles

/-- Marks that end a document. -/
def documentEnds : Nat → Reader Unit
  | 0 => throw .tooDeep
  | fuel + 1 => do
    if (← peek) = .documentEnd then
      take
      documentEnds fuel

/-- The head of a document that is not the first thing of a stream or has a head: directives and the
mark that starts it. There is none at the end of the stream. -/
def documentHead (fuel : Nat) : Reader Bool := do
  documentEnds fuel
  if (← peek) = .streamEnd then return false
  let handles ← directives false [] fuel
  modify fun s => { s with
    handles := handles ++ usualHandles.filter fun h => (handles.lookup h.1).isNone }
  if (← peek) ≠ .documentStart then fail .documentStartMissing
  take
  return true

/-- The content of a document behind its head. -/
def documentContent (fuel : Nat) : Reader NodeId := do
  match ← peek with
  | .directive _ | .documentStart | .documentEnd | .streamEnd => nothingWritten
  | _ => node true false fuel

/-- The document of a stream, if it holds one; it may not hold two. -/
def stream (fuel : Nat) : Reader (Option NodeId) := do
  let top ← match ← peek with
    | .directive _ | .documentStart | .streamEnd => do
      if ← documentHead fuel then pure (some (← documentContent fuel)) else return none
    | _ => do
      modify fun s => { s with handles := usualHandles }
      pure (some (← node true false fuel))
  if (← peek) = .documentEnd then take
  if ← documentHead fuel then throw (.document .secondDocument)
  return top

end Reader

/-- The document that tokens make, if there is one. -/
def Document.ofTokens (ts : Tokens) : Except Problem (Option Document) := do
  let (top, s) ← (Reader.stream (4 * ts.tokens.length + 8)).run { left := ts }
  return top.map fun id => ⟨s.nodes, id⟩

/-- The document that a text holds, if it holds one. -/
def Document.ofText (text : Text) : Except Problem (Option Document) :=
  if text.all isDocumentCode then Document.ofTokens (Tokens.ofText text)
  else .error .unprintable

end EditorText.Yaml
