import EditorText.Yaml.Node

/-!
# Merged mappings

An entry under the key `<<` stands for the entries of the mapping it names, or of a list of
mappings, of which the last one comes first. The merged entries go in front of the mapping's own, so
that an own entry wins over a merged one of the same key. `Nodes.merge` carries this out for one
mapping; a mapping that it names is merged first and stays so.
-/

set_option autoImplicit false

namespace EditorText.Yaml

/-- The nodes of a document by number. -/
abbrev Nodes := Array Node

/-- An entry of a mapping. -/
abbrev Entry := NodeId × NodeId

namespace Nodes

/-- The tag of a node. -/
def tagOf (ns : Nodes) (id : NodeId) : Tag :=
  match ns[id]? with
  | some n => n.tag
  | none => .null

/-- What a node holds. -/
def contentOf (ns : Nodes) (id : NodeId) : Content :=
  match ns[id]? with
  | some n => n.content
  | none => .scalar []

/-- The entries of a mapping. -/
def entriesOf (ns : Nodes) (id : NodeId) : List Entry :=
  match ns.contentOf id with
  | .mapping es => es
  | _ => []

/-- Gives a mapping other entries. -/
def setEntries (ns : Nodes) (id : NodeId) (es : List Entry) : Nodes :=
  ns.modify id fun n => { n with content := .mapping es }

/-- Makes a text of the key `=`. -/
def plainKey (ns : Nodes) (id : NodeId) : Nodes :=
  ns.modify id fun n => if n.tag = .default_ then { n with tag := .text } else n

/-- The number of entries of all mappings. -/
def entryCount (ns : Nodes) : Nat :=
  ns.foldl (fun count n => match n.content with
    | .mapping es => count + es.length
    | _ => count) 0

/-- Takes the first entry under a merge key out of a list of entries. -/
def takeMerge? (ns : Nodes) : List Entry → Option (NodeId × List Entry)
  | [] => none
  | e :: es =>
    if ns.tagOf e.1 = .merge then some (e.2, es)
    else (ns.takeMerge? es).map fun (v, rest) => (v, e :: rest)

mutual

/-- Merges a mapping; `sofar` holds the entries that earlier merge keys brought. -/
def mergeFrom (ns : Nodes) (id : NodeId) (sofar : List Entry) : Nat → Except Problem Nodes
  | 0 => .error .tooDeep
  | fuel + 1 =>
    match ns.takeMerge? (ns.entriesOf id) with
    | none =>
      let ns := ns.setEntries id (sofar ++ ns.entriesOf id)
      .ok ((ns.entriesOf id).foldl (fun ns e => ns.plainKey e.1) ns)
    | some (named, rest) =>
      let ns := ns.setEntries id rest
      match ns.contentOf named with
      | .mapping _ => do
        let ns ← ns.mergeFrom named [] fuel
        ns.mergeFrom id (sofar ++ ns.entriesOf named) fuel
      | .sequence items => do
        let (ns, lists) ← ns.mergeAll items [] fuel
        ns.mergeFrom id (sofar ++ lists.flatten) fuel
      | .scalar _ => .error (.value .notMergeable)

/-- Merges mappings in order. The answer holds their entries, the last mapping's first. -/
def mergeAll (ns : Nodes) (ids : List NodeId) (lists : List (List Entry)) :
    Nat → Except Problem (Nodes × List (List Entry))
  | 0 => .error .tooDeep
  | fuel + 1 =>
    match ids with
    | [] => .ok (ns, lists)
    | id :: ids =>
      match ns.contentOf id with
      | .mapping _ => do
        let ns ← ns.mergeFrom id [] fuel
        ns.mergeAll ids (ns.entriesOf id :: lists) fuel
      | _ => .error (.value .notMergeable)

end

/-- Merges a mapping. Every round takes a merge key out of a mapping or passes an item of a
sequence, which bounds their number. -/
def merge (ns : Nodes) (id : NodeId) : Except Problem Nodes :=
  ns.mergeFrom id [] ((ns.entryCount + 1) * (ns.size + ns.entryCount + 3))

end Nodes

end EditorText.Yaml
