import EditorText.Yaml.Merge
import EditorText.Yaml.Scalar

/-!
# The value of a document

Values are made from the top of a document down, one level after the other, and each node once,
however many aliases it has. A scalar is made where it is first met and a collection when its turn
comes; the first problem in that order ends the loading. `Document.value` shows the result as a tree
down to a given depth, since a collection may be part of itself.
-/

set_option autoImplicit false

namespace EditorText.Yaml

/-- What is made of a node. Collections hold the numbers of their parts. -/
inductive Made where
  | scalar (value : Value)
  | list (items : List NodeId)
  | pairs (items : List Entry)
  | mapping (entries : List Entry)
  | set (keys : List NodeId)

/-- The state of the loading: the nodes, what is made of them, and the collections that wait for
their turn, the last one first. -/
structure Loading where
  nodes : Nodes
  made : Array (Option Made)
  waiting : List NodeId := []

/-- A step of the loading. -/
abbrev Loader := StateT Loading (Except Problem)

namespace Loader

/-- Fails with a problem of values. -/
def fail {α : Type} (p : ValueProblem) : Loader α :=
  throw (.value p)

/-- The text of a scalar. A mapping with the key `=` stands for the scalar under it. -/
def scalarText (ns : Nodes) (id : NodeId) : Nat → Except Problem Text
  | 0 => .error .tooDeep
  | fuel + 1 =>
    match ns.contentOf id with
    | .scalar t => .ok t
    | .sequence _ => .error (.value .notScalar)
    | .mapping es =>
      match es.find? fun e => ns.tagOf e.1 == .default_ with
      | some e => scalarText ns e.2 fuel
      | none => .error (.value .notScalar)

/-- The value of a scalar node. -/
def scalar (ns : Nodes) (id : NodeId) (read : Text → Make) : Make := do
  let t ← scalarText ns id (ns.size + 1)
  if ns.tagOf id = .time then
    if let .mapping _ := ns.contentOf id then badScalar .timeOfMapping
  read t

/-- Records what is made of a node. -/
def record (id : NodeId) (m : Made) : Loader Unit :=
  modify fun s => { s with made := s.made.setIfInBounds id (some m) }

/-- What is made of a node so far. -/
def made? (id : NodeId) : Loader (Option Made) := do
  return ((← get).made[id]?).join

/-- Lets a collection wait for its turn. -/
def wait (id : NodeId) (empty : Made) : Loader Unit := do
  record id empty
  modify fun s => { s with waiting := id :: s.waiting }

/-- Meets a node: a scalar is made, a collection waits. -/
def meet (id : NodeId) : Loader Unit := do
  if (← made? id).isSome then return
  let ns := (← get).nodes
  match ns.tagOf id with
  | .sequence => wait id (.list [])
  | .orderedMap | .pairs => wait id (.pairs [])
  | .mapping => wait id (.mapping [])
  | .set => wait id (.set [])
  | tag =>
    match scalarReader? tag with
    | some read => record id (.scalar (← scalar ns id read))
    | none => fail .unknownTag

/-- Meets nodes in order. -/
def meetAll : List NodeId → Loader Unit
  | [] => return
  | id :: ids => do
    meet id
    meetAll ids

/-- The key that a node was made to; a collection is none. -/
def key (id : NodeId) : Loader Value := do
  match ← made? id with
  | some (.scalar v) => return v
  | _ => fail .unhashableKey

/-- Puts an entry into a mapping. A key that is there already keeps its place and gets the new
value. -/
def insert (k : Value) (e : Entry) : List (Value × Entry) → List (Value × Entry)
  | [] => [(k, e)]
  | (k', e') :: es =>
    if k'.sameKey k then (k', (e'.1, e.2)) :: es else (k', e') :: insert k e es

/-- Meets the entries of a mapping and keeps one for each key. -/
def entries (sofar : List (Value × Entry)) : List Entry → Loader (List Entry)
  | [] => return sofar.map (·.2)
  | e :: es => do
    meet e.1
    let k ← key e.1
    meet e.2
    entries (insert k e sofar) es

/-- The entries of a mapping, merged. -/
def mappingEntries (id : NodeId) : Loader (List Entry) := do
  let s ← get
  match s.nodes.contentOf id with
  | .mapping _ =>
    let ns ← s.nodes.merge id
    set { s with nodes := ns }
    entries [] (ns.entriesOf id)
  | _ => fail .notMapping

/-- Meets the pairs of a sequence, each a mapping of one entry. -/
def pairItems (sofar : List Entry) : List NodeId → Loader (List Entry)
  | [] => return sofar.reverse
  | id :: ids => do
    match (← get).nodes.contentOf id with
    | .mapping [e] =>
      meet e.1
      meet e.2
      pairItems (e :: sofar) ids
    | _ => fail .notPair

/-- The items of a sequence. -/
def items (id : NodeId) : Loader (List NodeId) := do
  match (← get).nodes.contentOf id with
  | .sequence ids => return ids
  | _ => fail .notSequence

/-- Makes a collection whose turn has come. -/
def makeCollection (id : NodeId) : Loader Unit := do
  match (← get).nodes.tagOf id with
  | .sequence =>
    let ids ← items id
    meetAll ids
    record id (.list ids)
  | .mapping => record id (.mapping (← mappingEntries id))
  | .set => record id (.set ((← mappingEntries id).map (·.1)))
  | _ => record id (.pairs (← pairItems [] (← items id)))

/-- Makes collections in order. -/
def makeAll : List NodeId → Loader Unit
  | [] => return
  | id :: ids => do
    makeCollection id
    makeAll ids

/-- Makes the collections that wait, and those that begin to wait meanwhile; every node waits at
most once, which bounds the rounds. -/
def rounds : Nat → Loader Unit
  | 0 => throw .tooDeep
  | fuel + 1 => do
    let s ← get
    if s.waiting = [] then return
    set { s with waiting := [] }
    makeAll s.waiting.reverse
    rounds fuel

end Loader

/-- The value of a node as a tree down to a depth, below which collections are shown empty. -/
def Made.tree (made : Array (Option Made)) (id : NodeId) : Nat → Value
  | 0 =>
    match (made[id]?).join with
    | some (.scalar v) => v
    | some (.list _) | some (.pairs _) => .list []
    | some (.mapping _) => .mapping []
    | some (.set _) => .set []
    | none => .null
  | depth + 1 =>
    match (made[id]?).join with
    | some (.scalar v) => v
    | some (.list ids) => .list (ids.map fun i => Made.tree made i depth)
    | some (.pairs es) =>
      .list (es.map fun e => .pair (Made.tree made e.1 depth) (Made.tree made e.2 depth))
    | some (.mapping es) =>
      .mapping (es.map fun e => (Made.tree made e.1 depth, Made.tree made e.2 depth))
    | some (.set ks) => .set (ks.map fun k => Made.tree made k depth)
    | none => .null

/-- The value of a document down to a depth. -/
def Document.value (d : Document) (depth : Nat) : Except Problem Value := do
  let start : Loading := { nodes := d.nodes, made := Array.replicate d.nodes.size none }
  let ((), s) ← (do Loader.meet d.top; Loader.rounds (d.nodes.size + 1) : Loader Unit).run start
  return Made.tree s.made d.top depth

/-- The value of the document that a text holds, down to a depth; a text without a document has the
value null. -/
def load (text : Text) (depth : Nat) : Except Problem Value := do
  match ← Document.ofText text with
  | some d => d.value depth
  | none => return .null

end EditorText.Yaml
